import MediasoupClient.MediaSectionCodecs

namespace MediasoupClient.Sdp

/-!
# Reading the codec tables back

Both section constructors write the format list `payloads` of the `m=`
line as the payload types read as `uint8_t`, in decimal, with a space
between two, and each codec's `a=fmtp` config as `key=value` items with
`;` between two, skipped when the codec has no parameter.  Read back the
way an SDP parser splits them, the format list is the `rtpmap` payload
types modulo 256, so the two lists agree exactly when every payload type
is below 256, and each config is the codec's parameters in order with
their values as printed, provided no key holds `;` or `=` and no text
value holds `;`.  The answer's configs are those of the parameters its
`codecOptions` step gave each codec.
-/

/-! ## Separated items -/

theorem append_ne_empty {s t : String} (nonempty : t ≠ "") : s ++ t ≠ "" := by
  intro empty
  apply nonempty
  apply String.ext
  have := congrArg String.data empty
  simp only [String.data_append] at this
  exact (List.append_eq_nil.mp this).2

/--
The loops of `payloads` and of the `fmtp` config: each item after a
separator, except the first.
-/
theorem data_foldl_separated {α : Type} (separator : String) (render : α → String)
    (nonempty : ∀ item, render item ≠ "") (step : String → α → String)
    (steps : ∀ written item,
      step written item = (if written = "" then written else written ++ separator) ++ render item) :
    ∀ (items : List α) {written : String}, written ≠ "" →
      (items.foldl step written).data =
        written.data ++ (items.map fun item => separator.data ++ (render item).data).flatten
  | [], _, _ => by simp
  | item :: items, written, started => by
      have next : step written item = written ++ separator ++ render item := by
        rw [steps, if_neg started]
      rw [List.foldl_cons, data_foldl_separated separator render nonempty step steps items
        (next ▸ append_ne_empty (nonempty item)), next]
      simp

/-- The first item written from the empty string is the item itself. -/
theorem foldl_separated_cons {α : Type} (separator : String) (render : α → String)
    (step : String → α → String)
    (steps : ∀ written item,
      step written item = (if written = "" then written else written ++ separator) ++ render item)
    (item : α) (items : List α) :
    (item :: items).foldl step "" = items.foldl step (render item) := by
  rw [List.foldl_cons, steps, if_pos rfl, String.empty_append]

/-- Splitting at a separator no item holds gives the items back. -/
theorem splitOn_separated {c : Char} :
    ∀ {first : List Char} {rest : List (List Char)}, c ∉ first → (∀ item ∈ rest, c ∉ item) →
      (first ++ (rest.map fun item => c :: item).flatten).splitOn c = first :: rest
  | first, rest, notIn, notInRest => by
      have notSeparator : ∀ x ∈ first, ¬(x == c) = true := fun x member same =>
        notIn (beq_iff_eq.mp same ▸ member)
      cases rest with
      | nil =>
          rw [List.map_nil, List.flatten_nil, List.append_nil]
          exact List.splitOnP_eq_single _ _ notSeparator
      | cons item rest =>
          have shape : first ++ ((item :: rest).map fun item => c :: item).flatten =
              first ++ c :: (item ++ (rest.map fun item => c :: item).flatten) := by
            simp
          rw [shape, List.splitOn, List.splitOnP_first _ _ notSeparator c (beq_self_eq_true c)]
          exact congrArg (first :: ·)
            (splitOn_separated (notInRest item (List.mem_cons_self _ _))
              fun other member => notInRest other (List.mem_cons_of_mem _ member))

/--
Written by the separator loop from the empty string, items that are not
empty and do not hold the one character of the separator split back out.
-/
theorem splitOn_foldl_separated {α : Type} {c : Char} (separator : String)
    (single : separator.data = [c]) (render : α → String)
    (nonempty : ∀ item, render item ≠ "") (step : String → α → String)
    (steps : ∀ written item,
      step written item = (if written = "" then written else written ++ separator) ++ render item)
    (item : α) (items : List α)
    (separated : ∀ other ∈ item :: items, c ∉ (render other).data) :
    ((item :: items).foldl step "").data.splitOn c = (item :: items).map (render · |>.data) ∧
      (item :: items).foldl step "" ≠ "" := by
  have written := data_foldl_separated separator render nonempty step steps items (nonempty item)
  rw [single] at written
  rw [foldl_separated_cons separator render step steps]
  refine ⟨?_, fun empty => nonempty item (String.ext ?_)⟩
  · have split := splitOn_separated (separated item (List.mem_cons_self _ _))
      fun other member => by
        obtain ⟨source, sourceMember, rfl⟩ := List.mem_map.mp member
        exact separated source (List.mem_cons_of_mem _ sourceMember)
    rw [List.map_map] at split
    rw [written]
    exact split
  · exact (List.append_eq_nil.mp (written.symm.trans (congrArg String.data empty))).1

/-! ## The format list -/

/-- The `m=` line's format list read back: space-separated decimal numbers. -/
def decodePayloads (payloads : String) : List Nat :=
  if payloads = "" then [] else (payloads.data.splitOn ' ').map decimalValue

/-- The format list reads back as the payload types modulo 256, in order. -/
theorem decodePayloads_payloadsString (codecs : List RtpCodecParameters) :
    decodePayloads (payloadsString codecs) = codecs.map (·.payloadType % 256) := by
  cases codecs with
  | nil => simp [decodePayloads, payloadsString]
  | cons codec rest =>
      obtain ⟨split, nonempty⟩ := splitOn_foldl_separated " " rfl
        (fun codec : RtpCodecParameters => toString (codec.payloadType % 256))
        (fun _ empty => (toString_decimal _).1 (congrArg String.data empty)) _
        (fun _ _ => rfl) codec rest
        (fun _ _ member => absurd ((toString_decimal _).2.1 _ member) (by decide))
      rw [decodePayloads, payloadsString, if_neg nonempty, split]
      simp

/-! ## The `fmtp` configs -/

/-- An `a=fmtp` config read back: `;`-separated items, each split at its first `=`. -/
def decodeFmtpConfig (config : String) : List (String × String) :=
  (config.data.splitOn ';').map fun item =>
    (⟨item.takeWhile (· != '=')⟩, ⟨(item.dropWhile (· != '=')).tail⟩)

/-- Parameters the separators of a config keep apart: no key holds `;` or `=`, no text `;`. -/
def FmtpSafe (parameters : List (String × ParameterValue)) : Prop :=
  ∀ parameter ∈ parameters, ';' ∉ parameter.1.data ∧ '=' ∉ parameter.1.data ∧
    ∀ text, parameter.2 = .text text → ';' ∉ text.data

/-- The parameters as a config prints them. -/
def printedParameters (parameters : List (String × ParameterValue)) :
    List (String × String) :=
  parameters.map fun parameter => (parameter.1, renderParameterValue parameter.2)

/-- A printed value holds `;` only when it is a text holding it. -/
theorem semicolon_not_mem_render {value : ParameterValue}
    (safe : ∀ text, value = .text text → ';' ∉ text.data) :
    ';' ∉ (renderParameterValue value).data := by
  cases value with
  | text text => exact safe text rfl
  | integer value => exact semicolon_not_mem_toString_int _
  | float value => exact semicolon_not_mem_formatFloat value
  | other => exact List.not_mem_nil _

/-- An item `key=value` splits at its first `=` when the key holds none. -/
theorem split_item {value : List Char} :
    ∀ {key : List Char}, '=' ∉ key →
      (key ++ '=' :: value).takeWhile (· != '=') = key ∧
        ((key ++ '=' :: value).dropWhile (· != '=')).tail = value
  | [], _ => by simp
  | c :: key, noEq => by
      have different : c ≠ '=' := fun same => noEq (same ▸ List.mem_cons_self _ _)
      obtain ⟨taken, dropped⟩ :=
        @split_item value key fun member => noEq (List.mem_cons_of_mem _ member)
      simp [different, taken, dropped]

/-- The `fmtp` loop, each item written as `key=value` after the separator. -/
theorem fmtpConfig_eq (parameters : List (String × ParameterValue)) :
    fmtpConfig parameters =
      parameters.foldl
        (fun config parameter =>
          (if config = "" then config else config ++ ";") ++
            (parameter.1 ++ "=" ++ renderParameterValue parameter.2))
        "" := by
  simp only [fmtpConfig, String.append_assoc]

/-- A config reads back as the parameters it prints. -/
theorem decodeFmtpConfig_fmtpConfig {parameters : List (String × ParameterValue)}
    (safe : FmtpSafe parameters) (nonempty : parameters ≠ []) :
    decodeFmtpConfig (fmtpConfig parameters) = printedParameters parameters ∧
      fmtpConfig parameters ≠ "" := by
  obtain ⟨parameter, rest, rfl⟩ := List.exists_cons_of_ne_nil nonempty
  rw [fmtpConfig_eq]
  obtain ⟨split, written⟩ := splitOn_foldl_separated ";" rfl
    (fun parameter : String × ParameterValue =>
      parameter.1 ++ "=" ++ renderParameterValue parameter.2)
    (fun _ empty => by simpa using congrArg String.data empty) _
    (fun _ _ => rfl) parameter rest
    (fun other member => by
      obtain ⟨noSemicolon, -, text⟩ := safe other member
      simpa [noSemicolon] using semicolon_not_mem_render text)
  refine ⟨?_, written⟩
  rw [decodeFmtpConfig, split, List.map_map, printedParameters]
  refine List.map_congr_left fun other member => ?_
  obtain ⟨taken, dropped⟩ :=
    @split_item (renderParameterValue other.2).data other.1.data (safe other member).2.1
  simp [taken, dropped]

/-- An `fmtp` entry read back: its payload type and its config's items. -/
def FmtpObject.decode (entry : FmtpObject) : Nat × List (String × String) :=
  (entry.payload, decodeFmtpConfig entry.config)

/-- A codec's `fmtp` entries read back: one with its parameters, none without. -/
theorem decode_fmtpObjects (payloadType : Nat) {parameters : List (String × ParameterValue)}
    (safe : FmtpSafe parameters) :
    (fmtpObjects payloadType parameters).map FmtpObject.decode =
      if parameters = [] then [] else [(payloadType, printedParameters parameters)] := by
  by_cases empty : parameters = []
  · subst empty
    rfl
  · obtain ⟨decoded, written⟩ := decodeFmtpConfig_fmtpConfig safe empty
    simp only [fmtpObjects, if_neg written, if_neg empty, List.map_cons, List.map_nil,
      FmtpObject.decode, decoded]

/-- The `fmtp` entries of codecs, each with the parameters it prints, read back. -/
theorem decode_flatMap_fmtpObjects :
    ∀ (pairs : List (RtpCodecParameters × List (String × ParameterValue))),
      (∀ pair ∈ pairs, FmtpSafe pair.2) →
      (pairs.flatMap fun pair => fmtpObjects pair.1.payloadType pair.2).map
          FmtpObject.decode =
        pairs.filterMap fun pair =>
          if pair.2 = [] then none else some (pair.1.payloadType, printedParameters pair.2)
  | [], _ => rfl
  | pair :: pairs, safe => by
      rw [List.flatMap_cons, List.map_append,
        decode_fmtpObjects _ (safe pair (List.mem_cons_self _ _)),
        decode_flatMap_fmtpObjects pairs fun other member =>
          safe other (List.mem_cons_of_mem _ member)]
      by_cases empty : pair.2 = []
      · simp [empty]
      · simp [empty]

/-! ## The two constructors' tables -/

/-- The answer loop writes the `fmtp` entries of the parameters its `codecOptions` step gives. -/
theorem answerCodecLoop_fmtp (codecOptions : Option CodecOptions) :
    ∀ {offerCodecs : List RtpCodecParameters} (codecs : List RtpCodecParameters)
      {entries : CodecEntries} {updated : List RtpCodecParameters},
      answerCodecLoop codecOptions offerCodecs codecs = .ok (entries, updated) →
        ∃ pairs : List (RtpCodecParameters × List (String × ParameterValue)),
          pairs.map Prod.fst = codecs ∧
            (∀ pair ∈ pairs, ∃ offerCodecs updated,
              answerCodecParameters codecOptions offerCodecs pair.1 =
                .ok (pair.2, updated)) ∧
            entries.fmtp = pairs.flatMap fun pair => fmtpObjects pair.1.payloadType pair.2
  | _, [], _, _, answered => by
    cases answered
    exact ⟨[], rfl, fun _ member => absurd member (List.not_mem_nil _), rfl⟩
  | offerCodecs, codec :: rest, _, _, answered => by
    simp only [answerCodecLoop, bind, Except.bind] at answered
    split at answered
    · cases answered
    · rename_i first stepped
      split at answered
      · cases answered
      · rename_i loop looped
        cases answered
        obtain ⟨pairs, codecsOf, stepsOf, fmtp⟩ := answerCodecLoop_fmtp codecOptions rest looped
        refine ⟨(codec, first.1) :: pairs, by simp [codecsOf], fun pair member => ?_, ?_⟩
        · rcases List.mem_cons.mp member with rfl | later
          · exact ⟨offerCodecs, first.2, stepped⟩
          · exact stepsOf pair later
        · simp [fmtp]

/--
What a parser reads back from a section's codec tables, for its codecs
each with the parameters its `fmtp` entries print: the format list is the
`rtpmap` payload types as `uint8_t`, the `rtpmap` entries are the codecs'
payload types in order, and, when the separators keep every config's
items apart, each codec with parameters has, in order, one `fmtp` entry
that reads back as them.
-/
structure TablesReadBack (mediaObject : MediaObject)
    (pairs : List (RtpCodecParameters × List (String × ParameterValue))) : Prop where
  payloads :
    mediaObject.payloads.map decodePayloads = mediaObject.rtp.map (·.map (·.payload % 256))
  rtp : mediaObject.rtp.map (·.map (·.payload)) = some (pairs.map (·.1.payloadType))
  fmtp : (∀ pair ∈ pairs, FmtpSafe pair.2) →
    mediaObject.fmtp.map (·.map FmtpObject.decode) =
      some (pairs.filterMap fun pair =>
        if pair.2 = [] then none else some (pair.1.payloadType, printedParameters pair.2))

/-- Tables written from codecs and their parameters read back as them. -/
theorem TablesReadBack.of_entries {mediaObject : MediaObject}
    {pairs : List (RtpCodecParameters × List (String × ParameterValue))}
    (rtp : mediaObject.rtp = some ((pairs.map Prod.fst).map rtpObject))
    (payloads : mediaObject.payloads = some (payloadsString (pairs.map Prod.fst)))
    (fmtp : mediaObject.fmtp =
      some (pairs.flatMap fun pair => fmtpObjects pair.1.payloadType pair.2)) :
    TablesReadBack mediaObject pairs where
  payloads := by
    simp only [payloads, rtp, Option.map_some', decodePayloads_payloadsString, List.map_map]
    rfl
  rtp := by
    simp only [rtp, Option.map_some', List.map_map]
    rfl
  fmtp safe := by
    rw [fmtp, Option.map_some', decode_flatMap_fmtpObjects pairs safe]

/--
The codec tables of either section constructor read back as its codecs:
an audio or video offer section's as the offer codecs with their own
parameters, and an audio or video answer section's as the answer codecs,
each with the parameters its `codecOptions` step gave it.  So the format
list of the `m=` line names the `rtpmap` payload types exactly when each
is below 256, and every `fmtp` config splits back into its codec's
parameters when no key holds `;` or `=` and no text value `;`.
-/
theorem codec_tables_read_back {iceParameters : IceParameters}
    {iceCandidates : List IceCandidate} {dtlsParameters : DtlsParameters}
    {sctpParameters : Option SctpParameters} {offerMediaObject : LocalMediaObject}
    {offerRtpParameters answerRtpParameters : RtpParameters}
    {codecOptions : Option CodecOptions} {built : MediaSection × RtpParameters}
    {offerIceParameters : IceParameters} {offerIceCandidates : List IceCandidate}
    {offerSctpParameters : Option SctpParameters} {mid kind streamId trackId : String}
    {codecRtpParameters : RtpParameters} {offerSection : MediaSection}
    (offerMedia : kind = "audio" ∨ kind = "video")
    (offered :
      offerMediaSection offerIceParameters offerIceCandidates offerSctpParameters mid kind
        codecRtpParameters streamId trackId = .ok offerSection)
    (media : offerMediaObject.type = "audio" ∨ offerMediaObject.type = "video")
    (constructed :
      answerMediaSection iceParameters iceCandidates dtlsParameters
        sctpParameters offerMediaObject offerRtpParameters answerRtpParameters
        codecOptions = .ok built) :
    TablesReadBack offerSection.mediaObject
        (codecRtpParameters.codecs.map fun codec => (codec, codec.parameters)) ∧
      ∃ pairs : List (RtpCodecParameters × List (String × ParameterValue)),
        pairs.map Prod.fst = answerRtpParameters.codecs ∧
          (∀ pair ∈ pairs, ∃ offerCodecs updated,
            answerCodecParameters codecOptions offerCodecs pair.1 = .ok (pair.2, updated)) ∧
          TablesReadBack built.1.mediaObject pairs := by
  have ownCodecs : (codecRtpParameters.codecs.map fun codec => (codec, codec.parameters)).map
      Prod.fst = codecRtpParameters.codecs := by
    simp [Function.comp_def]
  obtain ⟨offerRtp, offerFmtp, -, offerPayloads⟩ := offerMediaSection_codecTables offerMedia offered
  obtain ⟨entries, _, _, looped, -, -, -, -, rtp, fmtp, -, payloads⟩ :=
    answerMediaSection_media media constructed
  obtain ⟨pairs, codecsOf, stepsOf, pairsFmtp⟩ := answerCodecLoop_fmtp codecOptions _ looped
  refine ⟨.of_entries ?_ ?_ ?_, pairs, codecsOf, stepsOf, .of_entries ?_ ?_ ?_⟩
  · rw [offerRtp, ownCodecs]
    rfl
  · rw [offerPayloads, ownCodecs]
  · rw [offerFmtp, List.flatMap_map]
    rfl
  · rw [rtp, codecsOf, (answerCodecLoop_entries codecOptions _ looped).1]
    rfl
  · rw [payloads, codecsOf]
  · rw [fmtp, pairsFmtp]

/-- Consumer parameters whose one codec has a payload type that `uint8_t` does not hold. -/
def exampleWideRtpParameters : RtpParameters :=
  { exampleOpusRtpParameters with codecs := [{ exampleOpus with payloadType := 300 }] }

theorem codec_tables_read_back_of_wide_payload :
    ∃ offerSection built,
      offerMediaSection RemoteSdp.exampleIceParameters [] none "1" "audio"
          exampleWideRtpParameters "stream" "track" = .ok offerSection ∧
        answerMediaSection RemoteSdp.exampleIceParameters [] RemoteSdp.exampleDtlsParameters
          none (exampleLocalMediaObject "0") exampleSendingRtpParameters
          exampleOpusRtpParameters (some exampleFecOptions) = .ok built ∧
        offerSection.mediaObject.payloads = some "44" ∧
        TablesReadBack offerSection.mediaObject
          (exampleWideRtpParameters.codecs.map fun codec => (codec, codec.parameters)) ∧
        ∃ pairs : List (RtpCodecParameters × List (String × ParameterValue)),
          pairs.map Prod.fst = exampleOpusRtpParameters.codecs ∧
            (∀ pair ∈ pairs, ∃ offerCodecs updated,
              answerCodecParameters (some exampleFecOptions) offerCodecs pair.1 =
                .ok (pair.2, updated)) ∧
            TablesReadBack built.1.mediaObject pairs :=
  have offered : offerMediaSection RemoteSdp.exampleIceParameters [] none "1" "audio"
      exampleWideRtpParameters "stream" "track" = .ok _ := rfl
  have constructed : answerMediaSection RemoteSdp.exampleIceParameters []
      RemoteSdp.exampleDtlsParameters none (exampleLocalMediaObject "0")
      exampleSendingRtpParameters exampleOpusRtpParameters (some exampleFecOptions) =
        .ok _ := rfl
  ⟨_, _, offered, constructed, rfl,
    codec_tables_read_back (.inl rfl) offered (.inl rfl) constructed⟩

end MediasoupClient.Sdp
