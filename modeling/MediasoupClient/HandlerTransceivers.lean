import MediasoupClient.RecvHandlerEffects
import MediasoupClient.SendHandlerEffects

namespace MediasoupClient

/-!
# The transceivers `mapMidTransceiver` names

Both handlers map a localId to a transceiver: `Send` maps the mid
`SetLocalDescription` gave the transceiver it added, `Receive` the first
transceiver whose mid is the localId it offered.  No method clears a mid or
moves a transceiver: `Send`'s undo, `StopSending`, `ReplaceTrack` and
`SetMaxSpatialLayer` change a direction, a track or the encodings' flags,
and new transceivers come last.  So in every state either handler reaches,
each entry names a transceiver whose mid is its localId, and the
`transceiver->mid().value()` that `StopSending` and `StopReceiving` read
for the entry they find gives back that localId: no missing transceiver,
no `bad optional access`.
-/

/-- Every transceiver with a mid keeps its place and its mid; more may come. -/
def KeepsMids (before after : List Transceiver) : Prop :=
  ∀ (transceiver : Nat) (mid : String), before[transceiver]?.bind Transceiver.mid = some mid →
    after[transceiver]?.bind Transceiver.mid = some mid

namespace KeepsMids

theorem refl (transceivers : List Transceiver) : KeepsMids transceivers transceivers :=
  fun _ _ => id

/-- A transceiver with a mid is one of `before`. -/
theorem lt_length_of_named {transceivers : List Transceiver} {transceiver : Nat}
    {mid : String} (named : transceivers[transceiver]?.bind Transceiver.mid = some mid) :
    transceiver < transceivers.length := by
  by_contra outside
  rw [List.getElem?_eq_none (by omega)] at named
  cases named

/-- New transceivers come after the others. -/
theorem append_right {before middle : List Transceiver} (kept : KeepsMids before middle)
    (more : List Transceiver) : KeepsMids before (middle ++ more) := by
  intro transceiver mid named
  have kept := kept transceiver mid named
  rwa [List.getElem?_append_left (lt_length_of_named kept)]

/-- Transceivers only appended keep their mids. -/
theorem of_appended {before after : List Transceiver} (grown : before <+: after) :
    KeepsMids before after := by
  obtain ⟨more, rfl⟩ := grown
  exact (refl before).append_right more

/-- A write to a transceiver that keeps its mid keeps every mid. -/
theorem modify_right {before middle : List Transceiver} (kept : KeepsMids before middle)
    {update : Transceiver → Transceiver} (keeps : ∀ current, (update current).mid = current.mid)
    (idx : Nat) : KeepsMids before (middle.modify update idx) := by
  intro transceiver mid named
  have kept := kept transceiver mid named
  rw [List.getElem?_modify]
  cases found : middle[transceiver]? with
  | none => simp [found] at kept
  | some current =>
      simp only [found, Option.some_bind] at kept
      split <;> simp [keeps, kept]

/-- A write past the transceivers of `before` keeps theirs. -/
theorem modify_past_right {before middle : List Transceiver} (kept : KeepsMids before middle)
    {update : Transceiver → Transceiver} {idx : Nat} (past : before.length ≤ idx) :
    KeepsMids before (middle.modify update idx) := by
  intro transceiver mid named
  have elsewhere : idx ≠ transceiver := by
    have := lt_length_of_named named
    omega
  simpa [List.getElem?_modify, elsewhere] using kept transceiver mid named

end KeepsMids

/-- Each entry of `mapMidTransceiver` names a transceiver whose mid is its localId. -/
def EntriesNameTransceivers (handler : Handler) : Prop :=
  ∀ localId transceiver, handler.mapMidTransceiver.find? localId = some transceiver →
    handler.transceivers[transceiver]?.bind Transceiver.mid = some localId

/--
What a call does to the entries and the mids: it keeps the mids, and keeps
the entries or maps one localId to a transceiver with that mid.
-/
structure EntriesStep (before after : Handler) : Prop where
  keepsMids : KeepsMids before.transceivers after.transceivers
  entries : after.mapMidTransceiver = before.mapMidTransceiver ∨
    ∃ localId transceiver,
      after.mapMidTransceiver = before.mapMidTransceiver.assign localId transceiver ∧
        after.transceivers[transceiver]?.bind Transceiver.mid = some localId

namespace EntriesNameTransceivers

/-- A new handler has no entry. -/
theorem of_create {iceParameters : IceParameters} {iceCandidates : List IceCandidate}
    {dtlsParameters : DtlsParameters} {sctpParameters : Option SctpParameters}
    {handler : Handler}
    (created : Handler.create iceParameters iceCandidates dtlsParameters sctpParameters =
      .ok handler) :
    EntriesNameTransceivers handler := by
  obtain ⟨_, -, rfl⟩ := Handler.create_eq created
  intro _ _ found
  cases found

theorem step {before after : Handler} (named : EntriesNameTransceivers before)
    (stepped : EntriesStep before after) : EntriesNameTransceivers after := by
  intro localId transceiver found
  rcases stepped.entries with same | ⟨added, index, assigned, addedMid⟩
  · exact stepped.keepsMids _ _ (named localId transceiver (same ▸ found))
  · rw [assigned, StringMap.find?_assign] at found
    split at found
    · subst localId
      cases found
      exact addedMid
    · exact stepped.keepsMids _ _ (named localId transceiver found)

/-- `transceiver->mid().value()` for the transceiver an entry names gives back its localId. -/
theorem transceiverMid {handler : Handler} (named : EntriesNameTransceivers handler)
    {localId : String} {transceiver : Nat}
    (found : handler.mapMidTransceiver.find? localId = some transceiver) :
    Handler.transceiverMid transceiver handler = .returned handler localId := by
  have named := named localId transceiver found
  cases current : handler.transceivers[transceiver]? with
  | none => simp [current] at named
  | some current' =>
      simp only [current, Option.some_bind] at named
      simp [Handler.transceiverMid, bind, Method.bind, Method.read, Method.getOr, current,
        named]

end EntriesNameTransceivers

theorem entriesStep_iff {before after : Handler} :
    EntriesStep before after ↔
      KeepsMids before.transceivers after.transceivers ∧
        (after.mapMidTransceiver = before.mapMidTransceiver ∨
          ∃ localId transceiver,
            after.mapMidTransceiver = before.mapMidTransceiver.assign localId transceiver ∧
              after.transceivers[transceiver]?.bind Transceiver.mid = some localId) :=
  ⟨fun stepped => ⟨stepped.keepsMids, stepped.entries⟩, fun ⟨kept, entries⟩ => ⟨kept, entries⟩⟩

namespace EntriesStep

variable {before after : Handler}

/-- Transceivers only appended and the entries kept. -/
theorem of_grown (grown : before.transceivers <+: after.transceivers)
    (same : after.mapMidTransceiver = before.mapMidTransceiver) : EntriesStep before after :=
  ⟨.of_appended grown, .inl same⟩

/-- A write to a transceiver that keeps its mid, the entries kept. -/
theorem of_modify (transceiver : Nat) (update : Transceiver → Transceiver)
    (keeps : ∀ current, (update current).mid = current.mid)
    (written : after.transceivers = before.transceivers.modify update transceiver)
    (same : after.mapMidTransceiver = before.mapMidTransceiver) : EntriesStep before after :=
  ⟨written ▸ (KeepsMids.refl _).modify_right keeps transceiver, .inl same⟩

/-- A write to a transceiver that keeps its mid. -/
theorem of_modifyTransceiver {transceiver : Nat} {update : Transceiver → Transceiver}
    (keeps : ∀ current, (update current).mid = current.mid) :
    EntriesStep before (Handler.modifyTransceiver transceiver update before) :=
  .of_modify transceiver update keeps rfl rfl

/-- A sender edit keeps the entries and every transceiver's mid. -/
theorem of_editsSender (edits : SendHandler.EditsSender before after) :
    EntriesStep before after := by
  rcases edits with rfl | ⟨_, _, rfl, keepsMid⟩
  · exact .of_grown (List.prefix_refl _) rfl
  · exact .of_modifyTransceiver keepsMid

/-- A step followed by writes that keep the transceivers and the entries. -/
theorem of_members {middle : Handler} (step : EntriesStep before middle)
    (transceivers : after.transceivers = middle.transceivers)
    (entries : after.mapMidTransceiver = middle.mapMidTransceiver) : EntriesStep before after :=
  ⟨transceivers ▸ step.keepsMids, by rw [entries, transceivers]; exact step.entries⟩

/-- The members a set-up keeps, whatever else is written after it. -/
theorem of_setsUp {role : String} {ready : Handler}
    (setUp : Handler.SetsUpTransport role before ready)
    (transceivers : after.transceivers = ready.transceivers)
    (entries : after.mapMidTransceiver = ready.mapMidTransceiver) : EntriesStep before after :=
  .of_grown (transceivers ▸ setUp.members.2.1 ▸ List.prefix_refl _)
    (entries.trans setUp.members.2.2.1)

/-- Taking a stream id keeps the transceivers and the entries. -/
theorem of_advanceStreamId (step : EntriesStep (Handler.advanceStreamId before) after) :
    EntriesStep before after :=
  ⟨step.keepsMids, step.entries⟩

end EntriesStep

namespace SendHandler

section Steps

variable {engine : Engine} {before after : Handler}

theorem SendBaseThrew.entriesStep (threw : SendBaseThrew engine before after) :
    EntriesStep before after := by
  cases threw with
  | keeps => exact .of_grown (List.prefix_refl _) rfl
  | undone tried =>
      refine .of_grown (List.prefix_append _ _) ?_
      rcases tried with rfl | ⟨-, rfl⟩ | setUp
      · rfl
      · rfl
      · exact setUp.members.2.2.1
  | named setUp | answered setUp =>
      exact .of_grown (List.prefix_append _ _) setUp.members.2.2.1

theorem SendBaseReturned.entriesStep {localId : String}
    (returned : SendBaseReturned engine before localId after) : EntriesStep before after := by
  obtain ⟨_, _, _, -, rfl, -, named, -⟩ := returned
  exact ⟨.of_appended (List.prefix_append _ _), .inr ⟨localId, _, rfl, by simp [named]⟩⟩

theorem DataSectionThrew.entriesStep (threw : DataSectionThrew engine before after) :
    EntriesStep before after := by
  cases threw with
  | offer => exact .of_grown (List.prefix_refl _) rfl
  | connect threw =>
      obtain ⟨-, rfl⟩ := threw
      exact .of_grown (List.prefix_refl _) rfl
  | describe setUp | remoteDescription setUp => exact .of_setsUp setUp rfl rfl

theorem DataChannelThrew.entriesStep {helpers : Helpers} {dataChannelInit : DataChannelInit}
    (threw : DataChannelThrew helpers dataChannelInit engine before after) :
    EntriesStep before after := by
  cases threw with
  | invalid | notCreated => exact .of_grown (List.prefix_refl _) rfl
  | negotiation _ _ _ threw => exact .of_advanceStreamId threw.entriesStep

theorem DataChannelReturned.entriesStep {helpers : Helpers}
    {dataChannelInit : DataChannelInit} {channel : DataChannel}
    (returned : DataChannelReturned helpers dataChannelInit engine before channel after) :
    EntriesStep before after := by
  obtain ⟨-, -, -, ⟨-, rfl⟩ | ⟨-, _, _, setUp, -, rfl⟩⟩ := returned
  · exact .of_grown (List.prefix_refl _) rfl
  · exact .of_advanceStreamId (.of_setsUp setUp rfl rfl)

/-- Stopping a track keeps every mid. -/
theorem stopTrack_entriesStep (transceiver : Nat) :
    EntriesStep before (stopTrack transceiver before) :=
  .of_modifyTransceiver fun _ => rfl

theorem StopThrew.entriesStep {localId : String} (threw : StopThrew localId before after) :
    EntriesStep before after := by
  cases threw with
  | notFound => exact .of_grown (List.prefix_refl _) rfl
  | untracked => exact stopTrack_entriesStep _
  | closed | emitted => exact .of_members (stopTrack_entriesStep _) rfl rfl

theorem StopReturned.entriesStep {localId : String}
    (returned : StopReturned localId before after) : EntriesStep before after := by
  obtain ⟨_, _, -, rfl⟩ := returned
  exact .of_members (stopTrack_entriesStep _) rfl rfl

end Steps

/-- Every way out of every call of the send handler is an `EntriesStep`. -/
theorem call_entriesStep (helpers : Helpers) (operation : Operation) (engine : Engine)
    (handler : SendHandler) :
    Method.wp (call helpers operation engine)
      (fun _ after => EntriesStep handler.toHandler after.toHandler)
      (fun _ after => EntriesStep handler.toHandler after.toHandler) handler := by
  have start : EntriesStep handler.toHandler handler.toHandler := .of_grown (List.prefix_refl _) rfl
  cases operation with
  | send track encodings codecOptions =>
      simp only [call, Method.wp_bind, Method.wp_pure]
      exact Method.wp_mono (fun _ _ returned => returned.entriesStep)
        (fun _ _ threw => threw.entriesStep)
        (send_base helpers track encodings codecOptions engine handler)
  | sendDataChannel dataChannelInit =>
      simp only [call, Method.wp_bind, Method.wp_pure]
      exact Method.wp_mono (fun _ _ returned => returned.entriesStep)
        (fun _ _ threw => threw.entriesStep)
        (sendDataChannel_effect helpers dataChannelInit engine handler)
  | stopSending localId =>
      exact Method.wp_mono (fun _ _ returned => returned.entriesStep)
        (fun _ _ threw => threw.entriesStep) (stopSending_effect localId engine handler)
  | replaceTrack | setMaxSpatialLayer | getSenderStats =>
      refine Method.wp_mono (fun _ _ edits => ?_) (fun _ _ edits => ?_)
        (call_editsSender helpers (by rfl) engine handler) <;>
      exact .of_editsSender edits
  | restartIce iceParameters =>
      refine Method.wp_mono (fun _ after returned => ?_) (fun _ after threw => ?_)
        (restartIce_effect iceParameters engine handler)
      · rw [returned]
        split <;> exact .of_grown (List.prefix_refl _) rfl
      · rcases threw.2 with same | same <;> rw [same] <;>
          exact .of_grown (List.prefix_refl _) rfl

/-- Over every run of the send handler, every entry names a transceiver with its mid. -/
theorem entriesNameTransceivers_of_reachable {helpers : Helpers}
    {allowed : SendHandler → Operation × Engine → Prop} {start handler : SendHandler}
    (reached : Reachable (step helpers) allowed start handler)
    (initial : EntriesNameTransceivers start.toHandler) :
    EntriesNameTransceivers handler.toHandler := by
  induction reached with
  | refl => exact initial
  | step call _ _ stepped inductionHypothesis =>
      exact inductionHypothesis.step
        (Method.wp_state? (call_entriesStep helpers call.1 call.2 _) stepped :)

end SendHandler

namespace RecvHandler

/-- Every call of the receive handler that completes is an `EntriesStep`. -/
theorem entriesStep_of_step {helpers : Helpers} {handler after : Handler}
    {call : Operation × Engine} (stepped : step helpers handler call = some after) :
    EntriesStep handler after := by
  rcases step_effect stepped with effect | ⟨same, -, grown, -⟩
  · rcases call with ⟨_ | _ | _ | _ | _, _⟩
    case receive =>
      obtain ⟨grown, transceiver, assigned, named, -⟩ := effect
      exact ⟨.of_appended grown, .inr ⟨_, transceiver, assigned, named⟩⟩
    all_goals exact ⟨.of_appended effect.2.1, .inl effect.1⟩
  · exact ⟨.of_appended grown, .inl same⟩

/-- Over every run of the receive handler, every entry names a transceiver with its mid. -/
theorem entriesNameTransceivers_of_reachable {helpers : Helpers}
    {allowed : Handler → Operation × Engine → Prop} {start handler : Handler}
    (reached : Reachable (step helpers) allowed start handler)
    (initial : EntriesNameTransceivers start) : EntriesNameTransceivers handler := by
  induction reached with
  | refl => exact initial
  | step _ _ _ stepped inductionHypothesis =>
      exact inductionHypothesis.step (entriesStep_of_step stepped)

end RecvHandler

/--
In every state either handler reaches from its constructor, by any calls and
those that throw included, the transceiver each entry of
`mapMidTransceiver` names is there and has a mid, and that mid is the
entry's localId: the `transceiver->mid().value()` of `StopSending` and
`StopReceiving` gives back the localId they were called with.
-/
theorem handler_entries_name_transceivers (helpers : Helpers)
    {iceParameters : IceParameters} {iceCandidates : List IceCandidate}
    {dtlsParameters : DtlsParameters} {sctpParameters : Option SctpParameters} :
    (∀ {sendingRtpParametersByKind sendingRemoteRtpParametersByKind : StringMap RtpParameters}
        (allowed : SendHandler → SendHandler.Operation × Engine → Prop)
        {start handler : SendHandler},
        SendHandler.create iceParameters iceCandidates dtlsParameters sctpParameters
            sendingRtpParametersByKind sendingRemoteRtpParametersByKind = .ok start →
          Reachable (SendHandler.step helpers) allowed start handler →
          ∀ localId transceiver, handler.mapMidTransceiver.find? localId = some transceiver →
            Handler.transceiverMid transceiver handler.toHandler =
              .returned handler.toHandler localId) ∧
      ∀ (allowed : Handler → RecvHandler.Operation × Engine → Prop) {start handler : Handler},
        Handler.create iceParameters iceCandidates dtlsParameters sctpParameters = .ok start →
          Reachable (RecvHandler.step helpers) allowed start handler →
          ∀ localId transceiver, handler.mapMidTransceiver.find? localId = some transceiver →
            Handler.transceiverMid transceiver handler = .returned handler localId := by
  constructor
  · intro _ _ _ _ _ created reached _ _ found
    have initial := EntriesNameTransceivers.of_create (SendHandler.create_toHandler created)
    exact (SendHandler.entriesNameTransceivers_of_reachable reached initial).transceiverMid found
  · intro _ _ _ created reached _ _ found
    have initial := EntriesNameTransceivers.of_create created
    exact (RecvHandler.entriesNameTransceivers_of_reachable reached initial).transceiverMid found

theorem handler_entries_name_transceivers_after_first_calls :
    (∃ after,
      SendHandler.step exampleHelpers exampleSendHandler
          (.send (some (exampleTrack "a")) [] none, exampleEngine "0" ["0"]) = some after ∧
        after.mapMidTransceiver.find? "0" = some 0 ∧
          Handler.transceiverMid 0 after.toHandler = .returned after.toHandler "0") ∧
    ∃ after,
      RecvHandler.step exampleHelpers exampleHandler
          (.receive "track" "audio" Sdp.RemoteSdp.exampleRtpParameters, exampleEngine "" ["0"]) =
          some after ∧
        after.mapMidTransceiver.find? "0" = some 0 ∧
          Handler.transceiverMid 0 after = .returned after "0" :=
  ⟨⟨_, rfl, rfl, (handler_entries_name_transceivers exampleHelpers).1 (fun _ _ => True)
      create_exampleSendHandler
      (.step (.send (some (exampleTrack "a")) [] none, exampleEngine "0" ["0"]) .refl
        trivial rfl) "0" 0 rfl⟩,
    ⟨_, rfl, rfl, (handler_entries_name_transceivers exampleHelpers).2 (fun _ _ => True)
      create_exampleHandler
      (.step (.receive "track" "audio" Sdp.RemoteSdp.exampleRtpParameters,
        exampleEngine "" ["0"]) .refl trivial rfl) "0" 0 rfl⟩⟩

end MediasoupClient
