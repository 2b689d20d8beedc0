import MediasoupClient.MediaSectionAnswer
import MediasoupClient.SendHandlerEffects

namespace MediasoupClient

open Sdp

/-!
# The RTP parameters `Send` writes and returns

`Send` binds `sendingRtpParameters` by reference to the handler's entry
for the track's kind.  The mid, the CNAME, the encodings and the
scalability mode it writes stay in `sendingRtpParametersByKind`, and so do
the opus flags `AnswerMediaSection` mirrors into the offer codecs: a later
`Send` of the same kind starts from those codecs, so `codecOptions` given
once show in every later result.  The rest is kept over every run: the
remote parameters as `operator[]` reads them, the codecs' MIME types, and
the codecs themselves while no `Send` is given a `codecOptions` member,
except that a kind with no codec gets the entry `{"mimeType": null}` from
the `Send` that reads its first codec.

With more than one encoding, `Send` names the caller's encodings `r0`,
`r1`, … in place, counting with a `uint8_t`, and returns one encoding per
given one, in order, with the members the caller set.  The counter wraps
after 256 encodings.
-/

/-! ## Rids and encodings -/

@[simp] theorem assignRids_length (encodings : List EncodingInput) :
    (assignRids encodings).length = encodings.length := by
  unfold assignRids
  split <;> simp

/-- With several encodings, the `k`-th is named `r` and `k` modulo 256. -/
theorem getElem?_assignRids {encodings : List EncodingInput}
    (several : 1 < encodings.length) (k : Nat) :
    (assignRids encodings)[k]? =
      encodings[k]?.map fun encoding => { encoding with rid := "r" ++ toString (k % 256) } := by
  simp [assignRids, several, List.getElem?_enum, Option.map_map, Function.comp_def]

/-- Distinct numbers give distinct rids. -/
theorem rid_injective : Function.Injective fun k : Nat => "r" ++ toString k := by
  intro first second same
  exact natToString_injective (String.ext (List.append_cancel_left (congrArg String.data same)))

/-- A rid `r…` is never empty, so `fillJsonRtpEncodingParameters` writes it. -/
theorem rid_ne_empty (digits : String) : "r" ++ digits ≠ "" :=
  fun same => List.cons_ne_nil _ _ (congrArg String.data same)

/-- Several given encodings are written as they are given, filled in. -/
theorem sendingEncodings_several (helpers : Helpers) (offerMediaObject : LocalMediaObject) :
    ∀ {encodings : List EncodingInput}, 1 < encodings.length →
      sendingEncodings helpers offerMediaObject encodings =
        .ok (encodings.map (fillJsonRtpEncodingParameters { ssrc := none, rtx := none }))
  | _ :: _ :: _, _ => rfl

@[simp] theorem length_withScalabilityMode (mimeType : String)
    (encodings : List RtpEncodingParameters) :
    (withScalabilityMode mimeType encodings).length = encodings.length := by
  unfold withScalabilityMode
  split <;> simp

/-- With several encodings, each gets `S1T3` when the MIME type is VP8 or H264. -/
theorem getElem?_withScalabilityMode (mimeType : String)
    {encodings : List RtpEncodingParameters} (several : 1 < encodings.length) (k : Nat) :
    (withScalabilityMode mimeType encodings)[k]? =
      encodings[k]?.map fun encoding =>
        if mimeType = "video/vp8" ∨ mimeType = "video/h264" then
          { encoding with scalabilityMode := some "S1T3" }
        else encoding := by
  unfold withScalabilityMode
  by_cases layered : mimeType = "video/vp8" ∨ mimeType = "video/h264"
  · simp [several, layered]
  · simp [layered]

/-- Whether `Send` gives its encodings `S1T3`: the first codec is VP8 or H264, in any case. -/
def layeredCodec (codecs : List RtpCodecParameters) : Bool :=
  codecs.head?.any fun codec =>
    lowerCase codec.mimeType = "video/vp8" || lowerCase codec.mimeType = "video/h264"

/--
What `Send` returns for several given encodings: the first codec's MIME
type decides the scalability mode of the given encodings, filled in.
-/
def ReturnsGivenEncodings (encodings : List EncodingInput) (rtpParameters : RtpParameters) :
    Prop :=
  ∃ codec rest, rtpParameters.codecs = codec :: rest ∧
    rtpParameters.encodings = withScalabilityMode (lowerCase codec.mimeType)
      ((assignRids encodings).map (fillJsonRtpEncodingParameters { ssrc := none, rtx := none }))

/-- `CreateAnswer` hands the encodings and the first codec's MIME type back unchanged. -/
theorem returnsGivenEncodings_of_answer {encodings : List EncodingInput} {sdp : RemoteSdp}
    {offerMediaObject : LocalMediaObject} {reuseMid : String}
    {given answerRtpParameters : RtpParameters} {codecOptions : Option CodecOptions}
    {answered : RemoteSdp × RtpParameters} {codec : RtpCodecParameters}
    (answer : sdp.createAnswer offerMediaObject reuseMid given answerRtpParameters
      codecOptions = .ok answered)
    (first : given.codecs.head? = some codec)
    (encodings_eq : given.encodings = withScalabilityMode (lowerCase codec.mimeType)
      ((assignRids encodings).map (fillJsonRtpEncodingParameters { ssrc := none, rtx := none }))) :
    ReturnsGivenEncodings encodings answered.2 := by
  obtain ⟨returned, mimeTypes, -⟩ := RemoteSdp.createAnswer_offerRtpParameters answer
  have firstMimeType : answered.2.codecs.head?.map (·.mimeType) = some codec.mimeType := by
    rw [← List.head?_map, mimeTypes, List.head?_map, first, Option.map_some']
  obtain ⟨head, headed, sameMimeType⟩ := Option.map_eq_some'.mp firstMimeType
  obtain ⟨rest, codecs⟩ := List.head?_eq_some_iff.mp headed
  refine ⟨head, rest, codecs, ?_⟩
  rw [sameMimeType, ← encodings_eq, returned]

/--
What the `k`-th encoding `Send` returns carries of the caller's `k`-th
encoding: the rid `r` and `k`, the members `fillJsonRtpEncodingParameters`
copies, and `S1T3` exactly when the first codec is VP8 or H264.
-/
structure CarriesEncoding (k : Nat) (encoding : EncodingInput) (layered : Bool)
    (returned : RtpEncodingParameters) : Prop where
  rid_eq : returned.rid = some ("r" ++ toString k)
  active_eq : returned.active = some encoding.active
  maxBitrate_eq : returned.maxBitrate = encoding.maxBitrateBps
  maxFramerate_eq : returned.maxFramerate = encoding.maxFramerate
  scaleResolutionDownBy_eq : returned.scaleResolutionDownBy = encoding.scaleResolutionDownBy
  networkPriority_eq : returned.networkPriority = some encoding.networkPriority
  scalabilityMode_eq : returned.scalabilityMode = if layered then some "S1T3" else none

/-- The `k`-th returned encoding carries the `k`-th given one, named with `k` modulo 256. -/
theorem carriesEncoding_of_returns {encodings : List EncodingInput}
    {rtpParameters : RtpParameters} (returns : ReturnsGivenEncodings encodings rtpParameters)
    (several : 1 < encodings.length) {k : Nat} {encoding : EncodingInput}
    (given : encodings[k]? = some encoding) :
    ∃ returned, rtpParameters.encodings[k]? = some returned ∧
      CarriesEncoding (k % 256) encoding (layeredCodec rtpParameters.codecs) returned := by
  obtain ⟨codec, rest, codecs, encodings_eq⟩ := returns
  rw [encodings_eq, codecs, getElem?_withScalabilityMode _ (by simpa using several),
    List.getElem?_map, getElem?_assignRids several, given]
  refine ⟨_, rfl, ?_⟩
  by_cases layered :
      lowerCase codec.mimeType = "video/vp8" ∨ lowerCase codec.mimeType = "video/h264" <;>
    simp [layered, layeredCodec, fillJsonRtpEncodingParameters, rid_ne_empty] <;>
    constructor <;> simp_all

namespace SendHandler

@[simp] theorem find?_bindSendingRtpParameters_self (kind : String) (handler : SendHandler) :
    (bindSendingRtpParameters kind handler).sendingRtpParametersByKind.find? kind =
      some ((handler.sendingRtpParametersByKind.find? kind).getD RtpParameters.null) := by
  simp only [bindSendingRtpParameters, StringMap.subscript]
  split <;> simp_all

@[simp] theorem find?_writeSendingRtpParameters_self (kind : String)
    (edit : RtpParameters → RtpParameters) (handler : SendHandler) :
    (writeSendingRtpParameters kind edit handler).sendingRtpParametersByKind.find? kind =
      some (edit ((handler.sendingRtpParametersByKind.find? kind).getD RtpParameters.null)) := by
  simp [writeSendingRtpParameters, storedParameters]

@[simp] theorem storedParameters_writeSendingRtpParameters_self (kind : String)
    (edit : RtpParameters → RtpParameters) (handler : SendHandler) :
    storedParameters (writeSendingRtpParameters kind edit handler).sendingRtpParametersByKind
        kind =
      edit (storedParameters handler.sendingRtpParametersByKind kind) :=
  (storedParameters_assign _ _ _ _).trans (if_pos rfl)

/-- Every `Send` with several encodings that returns returns them in order, filled in. -/
theorem send_returnsGivenEncodings (helpers : Helpers) (track : Option Track)
    (encodings : List EncodingInput) (codecOptions : Option CodecOptions) (engine : Engine)
    (handler : SendHandler) (several : 1 < encodings.length) :
    Method.wp (send helpers track encodings codecOptions engine)
      (fun result _ => ReturnsGivenEncodings encodings result.rtpParameters)
      (fun _ _ => True) handler := by
  refine Method.wp_mono (fun result _ returned => ?_) (fun _ _ _ => trivial)
    (send_effect helpers track encodings codecOptions engine handler)
  obtain ⟨_, _, -, -, -, _, codec, _, _, ⟨_, _, -, -, built, first, rfl⟩, answer, -, -,
    returnedParameters⟩ := returned
  rw [sendingEncodings_several helpers _ (by rwa [assignRids_length])] at built
  cases built
  unfold firstCodec at first
  split_ifs at first
  rw [returnedParameters]
  simp only [sendAnswer, writeScalability, writeEncodings, writeCname,
    storedParameters_writeSendingRtpParameters_self] at answer first
  exact returnsGivenEncodings_of_answer answer first rfl

end SendHandler

/-! ## Codec options that stay -/

/-- `codecOptions` with `opusStereo` only. -/
def exampleOpusStereo : CodecOptions where
  opusStereo := some 1
  opusFec := none
  opusDtx := none
  opusMaxPlaybackRate := none
  opusPtime := none
  videoGoogleStartBitrate := none
  videoGoogleMaxBitrate := none
  videoGoogleMinBitrate := none

/--
Two handlers that differ only in the `codecOptions` of one earlier `Send`:
the flag that `Send` mirrored stays in the stored audio codecs, and the
same later `Send` with the same engine replies returns other codecs.
-/
theorem earlier_opus_stereo_shows_in_later_send :
    ∃ (stereo plain after₁ after₂ : SendHandler) (result₁ result₂ : SendResult),
      SendHandler.step exampleHelpers exampleSendHandler
          (.send (some (exampleTrack "a")) [] (some exampleOpusStereo),
            exampleEngine "0" ["0"]) = some stereo ∧
      SendHandler.step exampleHelpers exampleSendHandler
          (.send (some (exampleTrack "a")) [] none, exampleEngine "0" ["0"]) = some plain ∧
      (stereo.sendingRtpParametersByKind.find? "audio").map (·.codecs) =
        some [{ exampleOpus with parameters := [("sprop-stereo", .integer 1)] }] ∧
      SendHandler.send exampleHelpers (some (exampleTrack "b")) [] none
          (exampleEngine "1" ["0", "1"]) stereo = .returned after₁ result₁ ∧
      SendHandler.send exampleHelpers (some (exampleTrack "b")) [] none
          (exampleEngine "1" ["0", "1"]) plain = .returned after₂ result₂ ∧
      result₁.rtpParameters.codecs =
        [{ exampleOpus with parameters := [("sprop-stereo", .integer 1)] }] ∧
      result₂.rtpParameters.codecs = [exampleOpus] :=
  ⟨_, _, _, _, _, _, rfl, rfl, rfl, rfl, rfl, rfl, rfl⟩

/-! ## What `Send` keeps of the stored parameters -/

namespace SendHandler

/--
A kind's codecs as the JSON entry holds them: `none` is the entry
`{"mimeType": null}` that reading the first codec of an empty list leaves.
-/
def storedCodecs (handler : SendHandler) (kind : String) : List (Option RtpCodecParameters) :=
  if kind ∈ handler.nullCodecKinds then [none]
  else (storedParameters handler.sendingRtpParametersByKind kind).codecs.map some

end SendHandler

/-- A list kept, or an empty one given the one null entry. -/
def KeepsOrNulls {α : Type} (before after : List (Option α)) : Prop :=
  after = before ∨ before = [] ∧ after = [none]

namespace KeepsOrNulls

variable {α β : Type}

theorem trans {first middle last : List (Option α)} (before : KeepsOrNulls first middle)
    (after : KeepsOrNulls middle last) : KeepsOrNulls first last := by
  rcases before with rfl | ⟨rfl, rfl⟩ <;> rcases after with rfl | ⟨empty, rfl⟩
  · exact .inl rfl
  · exact .inr ⟨empty, rfl⟩
  · exact .inr ⟨rfl, rfl⟩
  · cases empty

theorem map {before after : List (Option α)} (kept : KeepsOrNulls before after) (f : α → β) :
    KeepsOrNulls (before.map (Option.map f)) (after.map (Option.map f)) := by
  rcases kept with rfl | ⟨rfl, rfl⟩
  · exact .inl rfl
  · exact .inr ⟨rfl, rfl⟩

end KeepsOrNulls

/--
What a run keeps of the stored parameters: every kind's remote parameters,
the MIME types of every kind's codecs, and, when `plain`, the codecs, each
up to the null entry an empty codec list may get.
-/
structure KeepsStoredCodecs (plain : Prop) (before after : SendHandler) : Prop where
  remote_eq : ∀ kind, storedParameters after.sendingRemoteRtpParametersByKind kind =
    storedParameters before.sendingRemoteRtpParametersByKind kind
  mimeTypes : ∀ kind,
    KeepsOrNulls ((SendHandler.storedCodecs before kind).map (Option.map (·.mimeType)))
      ((SendHandler.storedCodecs after kind).map (Option.map (·.mimeType)))
  codecs : plain → ∀ kind,
    KeepsOrNulls (SendHandler.storedCodecs before kind) (SendHandler.storedCodecs after kind)

namespace SendHandler

theorem storedParameters_writeSendingRtpParameters (kind : String)
    (edit : RtpParameters → RtpParameters) (handler : SendHandler) (other : String) :
    storedParameters (writeSendingRtpParameters kind edit handler).sendingRtpParametersByKind
        other =
      if other = kind then edit (storedParameters handler.sendingRtpParametersByKind kind)
      else storedParameters handler.sendingRtpParametersByKind other :=
  storedParameters_assign _ _ _ _

/-- A write that keeps the codecs of the entry it edits keeps every kind's stored codecs. -/
theorem storedCodecs_writeSendingRtpParameters (kind : String)
    (edit : RtpParameters → RtpParameters) (handler : SendHandler) (other : String)
    (keeps : (edit (storedParameters handler.sendingRtpParametersByKind kind)).codecs =
      (storedParameters handler.sendingRtpParametersByKind kind).codecs) :
    (storedParameters (writeSendingRtpParameters kind edit handler).sendingRtpParametersByKind
        other).codecs =
      (storedParameters handler.sendingRtpParametersByKind other).codecs := by
  rw [storedParameters_writeSendingRtpParameters]
  split
  · subst other
    exact keeps
  · rfl

end SendHandler

/-- The members the stored parameters are read from, kept. -/
structure SameStored (before after : SendHandler) : Prop where
  codecs : ∀ kind, (storedParameters after.sendingRtpParametersByKind kind).codecs =
    (storedParameters before.sendingRtpParametersByKind kind).codecs
  nulls : after.nullCodecKinds = before.nullCodecKinds
  remote : ∀ kind, storedParameters after.sendingRemoteRtpParametersByKind kind =
    storedParameters before.sendingRemoteRtpParametersByKind kind

namespace SameStored

variable {first middle last : SendHandler}

theorem refl (handler : SendHandler) : SameStored handler handler :=
  ⟨fun _ => rfl, rfl, fun _ => rfl⟩

/-- The three members equal. -/
theorem of_members
    (parameters : middle.sendingRtpParametersByKind = first.sendingRtpParametersByKind)
    (nulls : middle.nullCodecKinds = first.nullCodecKinds)
    (remote :
      middle.sendingRemoteRtpParametersByKind = first.sendingRemoteRtpParametersByKind) :
    SameStored first middle :=
  ⟨fun _ => by rw [parameters], nulls, fun _ => by rw [remote]⟩

theorem trans (before : SameStored first middle) (after : SameStored middle last) :
    SameStored first last :=
  ⟨fun kind => (after.codecs kind).trans (before.codecs kind), after.nulls.trans before.nulls,
    fun kind => (after.remote kind).trans (before.remote kind)⟩

/-- A method of the `Handler` part keeps them. -/
theorem of_toHandler (handler : SendHandler) (base : Handler) :
    SameStored handler { handler with toHandler := base } :=
  .of_members rfl rfl rfl

theorem bind (kind : String) (handler : SendHandler) :
    SameStored handler (SendHandler.bindSendingRtpParameters kind handler) :=
  ⟨fun _ => by simp [SendHandler.bindSendingRtpParameters], rfl, fun _ => rfl⟩

theorem bindRemote (kind : String) (handler : SendHandler) :
    SameStored handler (SendHandler.bindSendingRemoteRtpParameters kind handler) :=
  ⟨fun _ => rfl, rfl, fun _ => by simp [SendHandler.bindSendingRemoteRtpParameters]⟩

/-- A write that keeps the codecs of the entry it edits. -/
theorem write {kind : String} {edit : RtpParameters → RtpParameters}
    (keeps : ∀ parameters, (edit parameters).codecs = parameters.codecs) (handler : SendHandler) :
    SameStored handler (SendHandler.writeSendingRtpParameters kind edit handler) :=
  ⟨fun _ => SendHandler.storedCodecs_writeSendingRtpParameters _ _ _ _ (keeps _), rfl,
    fun _ => rfl⟩

theorem storedCodecs_eq (same : SameStored first middle) (kind : String) :
    SendHandler.storedCodecs middle kind = SendHandler.storedCodecs first kind := by
  simp only [SendHandler.storedCodecs, same.nulls, same.codecs]

theorem keeps {plain : Prop} (same : SameStored first middle) :
    KeepsStoredCodecs plain first middle :=
  ⟨same.remote, fun kind => .inl (by rw [same.storedCodecs_eq]),
    fun _ kind => .inl (same.storedCodecs_eq kind)⟩

end SameStored

namespace KeepsStoredCodecs

theorem trans {plain plain' : Prop} {first middle last : SendHandler}
    (before : KeepsStoredCodecs plain first middle)
    (after : KeepsStoredCodecs plain' middle last) (implies : plain → plain') :
    KeepsStoredCodecs plain first last :=
  ⟨fun kind => (after.remote_eq kind).trans (before.remote_eq kind),
    fun kind => (before.mimeTypes kind).trans (after.mimeTypes kind),
    fun isPlain kind => (before.codecs isPlain kind).trans (after.codecs (implies isPlain) kind)⟩

theorem of_same {plain : Prop} {first middle last : SendHandler}
    (before : KeepsStoredCodecs plain first middle) (same : SameStored middle last) :
    KeepsStoredCodecs plain first last :=
  before.trans same.keeps id

/-- Reading the first codec of an empty list leaves the null entry. -/
theorem of_markNullCodec {plain : Prop} {kind : String} {handler : SendHandler}
    (noCodec : SendHandler.firstCodec kind handler = none) :
    KeepsStoredCodecs plain handler (SendHandler.markNullCodec kind handler) := by
  have nulls : ∀ other, KeepsOrNulls (SendHandler.storedCodecs handler other)
      (SendHandler.storedCodecs (SendHandler.markNullCodec kind handler) other) := by
    intro other
    by_cases same : other = kind
    · subst same
      unfold SendHandler.firstCodec at noCodec
      by_cases marked : other ∈ handler.nullCodecKinds
      · exact .inl (by simp [SendHandler.storedCodecs, SendHandler.markNullCodec, marked])
      · rw [if_neg marked, List.head?_eq_none_iff] at noCodec
        exact .inr ⟨by simp [SendHandler.storedCodecs, marked, noCodec],
          by simp [SendHandler.storedCodecs, SendHandler.markNullCodec]⟩
    · exact .inl (by simp [SendHandler.storedCodecs, SendHandler.markNullCodec, same])
  exact ⟨fun _ => rfl, fun other => (nulls other).map _, fun _ => nulls⟩

/-- `CreateAnswer`'s offer parameters written back keep the MIME types, and the codecs when plain. -/
theorem of_answerSender {plain : Prop} {kind : String} {handler : SendHandler}
    {answered : RemoteSdp × RtpParameters} (notNull : kind ∉ handler.nullCodecKinds)
    (mimeTypes : answered.2.codecs.map (·.mimeType) =
      (storedParameters handler.sendingRtpParametersByKind kind).codecs.map (·.mimeType))
    (kept : plain →
      answered.2.codecs = (storedParameters handler.sendingRtpParametersByKind kind).codecs) :
    KeepsStoredCodecs plain handler (SendHandler.answerSender kind answered handler) := by
  refine ⟨fun _ => storedParameters_subscript _ _ _, fun other => .inl ?_,
    fun isPlain other => .inl ?_⟩ <;>
  · simp only [SendHandler.storedCodecs, SendHandler.answerSender,
      SendHandler.writeSendingRtpParameters, SendHandler.bindSendingRemoteRtpParameters,
      storedParameters_assign]
    split_ifs with marked same <;> try rfl
    subst same
    first
      | simpa [Function.comp_def] using congrArg (List.map some) mimeTypes
      | rw [kept isPlain]

end KeepsStoredCodecs

namespace SendHandler

section Steps

variable {helpers : Helpers} {kind : String} {idx : MediaSectionIdx}
  {encodings : List EncodingInput} {codecOptions : Option CodecOptions} {engine : Engine}
  {transceiver : Nat} {before after : SendHandler}

theorem SetsUpTransport.sameStored (setUp : SetsUpTransport before after) :
    SameStored before after := by
  obtain ⟨base, -, rfl⟩ := setUp
  exact .of_toHandler before base

theorem addSender_sameStored (track : Track) (encodings : List EncodingInput)
    (handler : SendHandler) : SameStored handler (addSender track encodings handler) :=
  ⟨fun _ => by simp [addSender, bindSendingRtpParameters], rfl, fun _ => rfl⟩

theorem NegotiationThrew.sameStored (threw : NegotiationThrew engine transceiver before after) :
    SameStored before after := by
  cases threw with
  | offer => exact .refl _
  | connect => exact .of_members rfl rfl rfl
  | describe setUp => exact setUp.sameStored
  | mid setUp => exact setUp.sameStored.trans (.of_members rfl rfl rfl)

theorem Negotiated.sameStored {localId : String}
    (negotiated : Negotiated engine transceiver kind before localId after) :
    SameStored before after := by
  obtain ⟨_, setUp, -, -, rfl⟩ := negotiated
  refine setUp.sameStored.trans ⟨fun _ => ?_, rfl, fun _ => rfl⟩
  exact storedCodecs_writeSendingRtpParameters _ _ _ _ rfl

/-- The writes before `CreateAnswer` keep the codecs. -/
theorem described_sameStored (offerMediaObject : LocalMediaObject)
    (newEncodings : List RtpEncodingParameters) (mimeType : String) (named : SendHandler) :
    SameStored named (writeScalability kind mimeType
      (writeEncodings kind newEncodings (writeCname helpers kind offerMediaObject named))) :=
  ((SameStored.write (fun _ => by rfl) _).trans (.write (fun _ => by rfl) _)).trans
    (.write (fun _ => by rfl) _)

/-- A `Send` that answered: the offer parameters written back, and the SDP emitted. -/
theorem keeps_of_answered {offerMediaObject : LocalMediaObject} {codec : RtpCodecParameters}
    {described : SendHandler} {answered : RemoteSdp × RtpParameters}
    (describes : Described helpers kind idx encodings engine before offerMediaObject codec
      described)
    (answer : sendAnswer kind offerMediaObject idx.reuseMid codecOptions described =
      .ok answered) :
    KeepsStoredCodecs (codecOptions.all CodecOptions.empty) before
      (emitSdp (answerSender kind answered described)) := by
  obtain ⟨_, newEncodings, -, -, -, first, rfl⟩ := describes
  have same : SameStored before (writeScalability kind codec.mimeType
      (writeEncodings kind newEncodings (writeCname helpers kind offerMediaObject before))) :=
    described_sameStored offerMediaObject newEncodings codec.mimeType before
  obtain ⟨-, mimeTypes, kept⟩ := RemoteSdp.createAnswer_offerRtpParameters answer
  unfold firstCodec at first
  split_ifs at first with marked
  refine (same.keeps.trans (KeepsStoredCodecs.of_answerSender ?_ ?_ kept) id).of_same
    (.of_members rfl rfl rfl)
  · simpa [writeScalability, writeEncodings, writeCname, writeSendingRtpParameters] using marked
  · exact mimeTypes

theorem AnswerThrew.keeps
    (threw : AnswerThrew helpers kind idx encodings codecOptions engine before after) :
    KeepsStoredCodecs (codecOptions.all CodecOptions.empty) before after := by
  cases threw with
  | localDescription => exact (SameStored.refl _).keeps
  | encodings => exact (SameStored.write (fun _ => by rfl) _).keeps
  | codec _ _ _ noCodec =>
      exact ((SameStored.write (fun _ => by rfl) _).trans (.write (fun _ => by rfl) _)).keeps.trans
        (.of_markNullCodec noCodec) id
  | answer describes =>
      obtain ⟨_, _, -, -, -, -, rfl⟩ := describes
      exact ((described_sameStored _ _ _ before).trans (.bindRemote kind _)).keeps
  | remoteDescription describes answer => exact keeps_of_answered describes answer

theorem Answered.keeps {result : SendResult}
    (returned : Answered helpers kind idx encodings codecOptions engine transceiver before
      result after) :
    KeepsStoredCodecs (codecOptions.all CodecOptions.empty) before after := by
  obtain ⟨_, _, _, _, describes, answer, -, rfl, -⟩ := returned
  exact (keeps_of_answered describes answer).of_same (.of_members rfl rfl rfl)

end Steps

/--
Every way out of `Send` keeps the stored parameters: only `CreateAnswer`
writes codecs, with the MIME types of the ones it was given, and the same
codecs without a `codecOptions` member; reading the first codec of an empty
list leaves the null entry.
-/
theorem send_keepsStoredCodecs (helpers : Helpers) (track : Option Track)
    (encodings : List EncodingInput) (codecOptions : Option CodecOptions) (engine : Engine)
    (handler : SendHandler) :
    Method.wp (send helpers track encodings codecOptions engine)
      (fun _ after => KeepsStoredCodecs (codecOptions.all CodecOptions.empty) handler after)
      (fun _ after => KeepsStoredCodecs (codecOptions.all CodecOptions.empty) handler after)
      handler := by
  refine Method.wp_mono (fun _ _ returned => ?_) (fun _ _ threw => ?_)
    (send_effect helpers track encodings codecOptions engine handler)
  · obtain ⟨_, _, -, -, negotiated, answered⟩ := returned
    exact ((addSender_sameStored _ _ _).trans negotiated.sameStored).keeps.trans answered.keeps id
  · cases threw with
    | early => exact (SameStored.refl _).keeps
    | negotiation _ _ threw =>
        exact ((addSender_sameStored _ _ _).trans threw.sameStored).keeps.of_same
          (.of_members rfl rfl rfl)
    | answer _ _ negotiated threw =>
        exact ((addSender_sameStored _ _ _).trans negotiated.sameStored).keeps.trans threw.keeps id

/-- Whether a call gives `Send` no `codecOptions` member; the other calls take none. -/
def Operation.plainCodecOptions : Operation → Bool
  | .send _ _ codecOptions => codecOptions.all CodecOptions.empty
  | _ => true

/-- Every way out of every call keeps the stored parameters; only `Send` touches them. -/
theorem call_keepsStoredCodecs (helpers : Helpers) (operation : Operation) (engine : Engine)
    (handler : SendHandler) :
    Method.wp (call helpers operation engine)
      (fun _ after => KeepsStoredCodecs operation.plainCodecOptions handler after)
      (fun _ after => KeepsStoredCodecs operation.plainCodecOptions handler after) handler := by
  cases operation <;> simp only [call, Method.wp_bind, ↓Method.wp_pure]
  case send track encodings codecOptions =>
    exact send_keepsStoredCodecs helpers track encodings codecOptions engine handler
  all_goals exact Method.wp_focus_of_forall fun base => (SameStored.of_toHandler handler base).keeps

/--
Over every run the stored parameters are kept, and the codecs too when
every call the run allows gives no `codecOptions` member.
-/
theorem keepsStoredCodecs_of_reachable {helpers : Helpers}
    {allowed : SendHandler → Operation × Engine → Prop} {plain : Prop}
    {start handler : SendHandler} (reached : Reachable (step helpers) allowed start handler)
    (givesNone : plain → ∀ state call, allowed state call → call.1.plainCodecOptions) :
    KeepsStoredCodecs plain start handler := by
  induction reached with
  | refl => exact (SameStored.refl start).keeps
  | step call _ isAllowed stepped inductionHypothesis =>
      exact inductionHypothesis.trans
        (Method.wp_state? (call_keepsStoredCodecs helpers call.1 call.2 _) stepped :)
        fun isPlain => givesNone isPlain _ _ isAllowed

end SendHandler

/--
Over every run of the send handler, every kind's stored remote parameters
read as they did; every kind's stored codecs keep their MIME types, except
that a kind with no codec may get the entry `{"mimeType": null}`; and when
no `Send` of the run is given a `codecOptions` member the stored codecs stay
as they were, up to that entry.
-/
theorem send_handler_keeps_stored_codecs (helpers : Helpers)
    {allowed : SendHandler → SendHandler.Operation × Engine → Prop}
    {start handler : SendHandler}
    (reached : Reachable (SendHandler.step helpers) allowed start handler) :
    (∀ kind, storedParameters handler.sendingRemoteRtpParametersByKind kind =
        storedParameters start.sendingRemoteRtpParametersByKind kind) ∧
      (∀ kind, KeepsOrNulls
        ((SendHandler.storedCodecs start kind).map (Option.map (·.mimeType)))
        ((SendHandler.storedCodecs handler kind).map (Option.map (·.mimeType)))) ∧
      ((∀ state call, allowed state call → call.1.plainCodecOptions) → ∀ kind,
        KeepsOrNulls (SendHandler.storedCodecs start kind)
          (SendHandler.storedCodecs handler kind)) :=
  have kept := SendHandler.keepsStoredCodecs_of_reachable reached id
  ⟨kept.remote_eq, kept.mimeTypes, kept.codecs⟩

theorem send_handler_keeps_stored_codecs_after_plain_send :
    ∃ handler,
      Reachable (SendHandler.step exampleHelpers) (fun _ call => call.1.plainCodecOptions)
          exampleSendHandler handler ∧
        ∀ kind, KeepsOrNulls (SendHandler.storedCodecs exampleSendHandler kind)
          (SendHandler.storedCodecs handler kind) :=
  have reached : Reachable (SendHandler.step exampleHelpers)
      (fun _ call => call.1.plainCodecOptions) exampleSendHandler _ :=
    .step (.send (some (exampleTrack "a")) [] none, exampleEngine "0" ["0"]) .refl rfl rfl
  ⟨_, reached, (send_handler_keeps_stored_codecs exampleHelpers reached).2.2 fun _ _ => id⟩

/-! ## A `Send` with several encodings -/

/--
A `Send` given `n` encodings, `2 ≤ n ≤ 256`, that returns names the
caller's encodings `r0` to `r<n-1>`, pairwise distinct, and returns `n`
encodings, the `k`-th carrying the caller's `k`-th.
-/
theorem send_returns_given_encodings_in_order (helpers : Helpers) (track : Option Track)
    (encodings : List EncodingInput) (codecOptions : Option CodecOptions) (engine : Engine)
    {handler after : SendHandler} {result : SendResult}
    (several : 2 ≤ encodings.length) (counted : encodings.length ≤ 256)
    (returned : SendHandler.send helpers track encodings codecOptions engine handler =
      .returned after result) :
    (assignRids encodings).map (·.rid) =
        (List.range encodings.length).map (fun k => "r" ++ toString k) ∧
      ((assignRids encodings).map (·.rid)).Nodup ∧
      result.rtpParameters.encodings.length = encodings.length ∧
      ∀ k encoding, encodings[k]? = some encoding →
        ∃ returnedEncoding, result.rtpParameters.encodings[k]? = some returnedEncoding ∧
          CarriesEncoding k encoding (layeredCodec result.rtpParameters.codecs)
            returnedEncoding := by
  have returns := Method.wp_returned
    (SendHandler.send_returnsGivenEncodings helpers track encodings codecOptions engine
      handler several) returned
  have rids : (assignRids encodings).map (·.rid) =
      (List.range encodings.length).map (fun k => "r" ++ toString k) := by
    refine List.ext_getElem? fun k => ?_
    rw [List.getElem?_map, getElem?_assignRids several, List.getElem?_map]
    by_cases inRange : k < encodings.length
    · simp [inRange, List.getElem?_range, Nat.mod_eq_of_lt (by omega : k < 256)]
    · rw [List.getElem?_eq_none (by omega), List.getElem?_eq_none (by simpa using not_lt.mp inRange)]
      rfl
  refine ⟨rids, rids ▸ (List.nodup_range _).map rid_injective, ?_, fun k encoding given => ?_⟩
  · obtain ⟨_, _, _, encodings_eq⟩ := returns
    simp [encodings_eq]
  · have inRange : k < 256 := by
      have := (List.getElem?_eq_some_iff.mp given).1
      omega
    simpa [Nat.mod_eq_of_lt inRange] using carriesEncoding_of_returns returns several given

/-- `count` copies of an active encoding that sets no rid and no limit. -/
def exampleEncodings (count : Nat) : List EncodingInput :=
  List.replicate count
    { rid := "", active := true, maxBitrateBps := none, maxFramerate := none,
      scaleResolutionDownBy := none, networkPriority := 1 }

theorem send_returns_given_encodings_in_order_of_three :
    (2 ≤ (exampleEncodings 3).length ∧ (exampleEncodings 3).length ≤ 256) ∧
      ∃ after result,
        SendHandler.send exampleHelpers (some (exampleTrack "a")) (exampleEncodings 3) none
            (exampleEngine "0" ["0"]) exampleSendHandler = .returned after result ∧
        (assignRids (exampleEncodings 3)).map (·.rid) =
          (List.range (exampleEncodings 3).length).map (fun k => "r" ++ toString k) :=
  ⟨⟨by decide, by decide⟩, _, _, rfl,
    (@send_returns_given_encodings_in_order exampleHelpers (some (exampleTrack "a"))
      (exampleEncodings 3) none (exampleEngine "0" ["0"]) exampleSendHandler _ _
      (by decide) (by decide) rfl).1⟩

set_option maxRecDepth 4000 in
/--
With 257 encodings the `uint8_t` counter wraps: the caller's 257th
encoding is named `r0` like the first, and so is the 257th returned one.
-/
theorem send_names_257th_encoding_r0 :
    ∃ after result,
      SendHandler.send exampleHelpers (some (exampleTrack "a")) (exampleEncodings 257) none
          (exampleEngine "0" ["0"]) exampleSendHandler = .returned after result ∧
      (assignRids (exampleEncodings 257))[256]?.map (·.rid) = some "r0" ∧
      result.rtpParameters.encodings[0]?.bind (·.rid) = some "r0" ∧
      result.rtpParameters.encodings[256]?.bind (·.rid) = some "r0" :=
  ⟨_, _, rfl, rfl, rfl, rfl⟩

end MediasoupClient
