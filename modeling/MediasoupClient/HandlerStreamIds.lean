import MediasoupClient.RecvHandlerEffects
import MediasoupClient.SendHandlerEffects

namespace MediasoupClient

/-!
# SCTP stream ids

Both handlers number their data channels with `nextSendSctpStreamId`.
`SendDataChannel` and `ReceiveDataChannel` take it as the new channel's
stream id and, once `CreateDataChannel` has returned, advance it by one
modulo `SctpNumStreamsMis`; no other method writes it.  So along any run
that starts below `SctpNumStreamsMis` the counter stays below it, the
channels get consecutive ids modulo 1024, and any 1024 consecutive
channels get distinct ids.
-/

/-! ## A counter that advances when a call opens a channel -/

/-- The counter a call leaves: one more modulo `SctpNumStreamsMis` when it opens a channel. -/
def StreamIdStep (opens : Bool) (before after : Nat) : Prop :=
  after = if opens then (before + 1) % sctpNumStreamsMis else before

section Counter

variable {σ κ : Type} (step : σ → κ → Option σ) (counter : σ → Nat)
  (opens : σ → κ → Bool)

/-- Every call moves the counter as `StreamIdStep` says. -/
def AdvancesStreamIds : Prop :=
  ∀ state call next, step state call = some next →
    StreamIdStep (opens state call) (counter state) (counter next)

/-- The stream ids the channels opened along a run take, in order. -/
def openedStreamIds : σ → List κ → List Nat
  | _, [] => []
  | state, call :: rest =>
      match step state call with
      | none => []
      | some next =>
          (if opens state call then [counter state] else []) ++
            openedStreamIds next rest

/-- What a run from the counter `start` does with the stream ids. -/
structure NumbersStreamIds (start final : Nat) (opened : List Nat) : Prop where
  final_lt : final < sctpNumStreamsMis
  opened_eq : opened = (List.range opened.length).map fun k => (start + k) % sctpNumStreamsMis
  final_eq : final = (start + opened.length) % sctpNumStreamsMis
  distinct : ∀ j k, j < k → k < j + sctpNumStreamsMis → k < opened.length →
    opened[j]? ≠ opened[k]?

variable {step counter opens}

/-- A step keeps the counter below `SctpNumStreamsMis`. -/
theorem StreamIdStep.lt {opens : Bool} {before after : Nat}
    (stepped : StreamIdStep opens before after) (below : before < sctpNumStreamsMis) :
    after < sctpNumStreamsMis := by
  rw [stepped]
  split
  · exact Nat.mod_lt _ (by decide)
  · exact below

/-- Along a run, the opened channels take consecutive ids modulo `SctpNumStreamsMis`. -/
theorem openedStreamIds_run (advances : AdvancesStreamIds step counter opens) :
    ∀ {state final : σ} (calls : List κ), counter state < sctpNumStreamsMis →
      runCalls step state calls = some final →
        openedStreamIds step counter opens state calls =
            (List.range (openedStreamIds step counter opens state calls).length).map
              (fun k => (counter state + k) % sctpNumStreamsMis) ∧
          counter final =
            (counter state + (openedStreamIds step counter opens state calls).length) %
              sctpNumStreamsMis
  | state, final, [], below, ran => by
    cases ran
    simp [openedStreamIds, Nat.mod_eq_of_lt below]
  | state, final, call :: rest, below, ran => by
    obtain ⟨next, stepped, ranRest⟩ := Option.bind_eq_some.mp ran
    have moved := advances state call next stepped
    obtain ⟨openedRest, finalRest⟩ := openedStreamIds_run advances rest (moved.lt below) ranRest
    simp only [openedStreamIds, stepped]
    unfold StreamIdStep at moved
    split at moved
    · rw [if_pos ‹_›, List.singleton_append, List.length_cons, List.range_succ_eq_map,
        List.map_cons, List.map_map, finalRest, moved]
      refine ⟨?_, by unfold sctpNumStreamsMis; omega⟩
      simp only [Nat.add_zero, Nat.mod_eq_of_lt below, Function.comp_def, List.cons.injEq,
        true_and]
      refine openedRest.trans (List.map_congr_left fun k _ => ?_)
      rw [moved]
      unfold sctpNumStreamsMis
      omega
    · rw [if_neg ‹_›, List.nil_append, ← moved]
      exact ⟨openedRest, finalRest⟩

/-- A run from a counter below `SctpNumStreamsMis` numbers its channels consecutively. -/
theorem numbersStreamIds_run (advances : AdvancesStreamIds step counter opens)
    {state final : σ} (calls : List κ) (below : counter state < sctpNumStreamsMis)
    (ran : runCalls step state calls = some final) :
    NumbersStreamIds (counter state) (counter final)
      (openedStreamIds step counter opens state calls) := by
  obtain ⟨opened_eq, final_eq⟩ := openedStreamIds_run advances calls below ran
  refine ⟨final_eq ▸ Nat.mod_lt _ (by decide), opened_eq, final_eq, ?_⟩
  intro j k before near inRange
  rw [opened_eq, List.getElem?_map, List.getElem?_map, List.getElem?_range (by omega),
    List.getElem?_range inRange]
  simp only [Option.map_some', ne_eq, Option.some.injEq]
  unfold sctpNumStreamsMis at near ⊢
  omega

end Counter

/-- A call that opens no channel and leaves the counter. -/
theorem StreamIdStep.kept {before after : Nat} (kept : after = before) :
    StreamIdStep false before after :=
  kept

/-- A call that takes the stream id once its parameters validate and the channel is created. -/
theorem StreamIdStep.of_created {σ : Type} {validated : Except String σ}
    {created : Except String Unit} {before after : Nat}
    (moved : validated.isOk = true → created.isOk = true →
      after = (before + 1) % sctpNumStreamsMis)
    (kept : validated.isOk = false ∨ created.isOk = false → after = before) :
    StreamIdStep (validated.isOk && created.isOk) before after := by
  unfold StreamIdStep
  cases isValid : validated.isOk <;> cases isCreated : created.isOk <;>
    simp_all

namespace SendHandler

/--
Whether a call gets past `CreateDataChannel`: a `SendDataChannel` whose
stream parameters validate and whose channel the engine creates.
-/
def opensDataChannel (helpers : Helpers) (handler : SendHandler) : Operation × Engine → Bool
  | (.sendDataChannel dataChannelInit, engine) =>
      (helpers.validateSctpStreamParameters
          (sendSctpStreamParameters handler.nextSendSctpStreamId dataChannelInit)).isOk &&
        (engine.createDataChannel
          (negotiatedDataChannelInit handler.nextSendSctpStreamId dataChannelInit)).isOk
  | _ => false

section Steps

variable {helpers : Helpers} {dataChannelInit : DataChannelInit} {engine : Engine}
  {before after : Handler}

theorem SendBaseThrew.streamId (threw : SendBaseThrew engine before after) :
    after.nextSendSctpStreamId = before.nextSendSctpStreamId := by
  cases threw with
  | keeps => rfl
  | undone tried =>
      rcases tried with rfl | ⟨-, rfl⟩ | setUp
      · rfl
      · rfl
      · exact setUp.members.2.2.2.2.1
  | named setUp | answered setUp => exact setUp.members.2.2.2.2.1

theorem SendBaseReturned.streamId {localId : String}
    (returned : SendBaseReturned engine before localId after) :
    after.nextSendSctpStreamId = before.nextSendSctpStreamId := by
  obtain ⟨_, _, _, setUp, rfl, -⟩ := returned
  exact setUp.members.2.2.2.2.1

theorem StopThrew.streamId {localId : String} (threw : StopThrew localId before after) :
    after.nextSendSctpStreamId = before.nextSendSctpStreamId := by
  cases threw <;> rfl

theorem DataSectionThrew.streamId (threw : DataSectionThrew engine before after) :
    after.nextSendSctpStreamId = before.nextSendSctpStreamId := by
  cases threw with
  | offer => rfl
  | connect threw =>
      obtain ⟨-, rfl⟩ := threw
      rfl
  | describe setUp | remoteDescription setUp => exact setUp.members.2.2.2.2.1

theorem DataChannelThrew.streamIdStep
    (threw : DataChannelThrew helpers dataChannelInit engine before after) :
    StreamIdStep
      ((helpers.validateSctpStreamParameters
          (sendSctpStreamParameters before.nextSendSctpStreamId dataChannelInit)).isOk &&
        (engine.createDataChannel
          (negotiatedDataChannelInit before.nextSendSctpStreamId dataChannelInit)).isOk)
      before.nextSendSctpStreamId after.nextSendSctpStreamId := by
  cases threw with
  | invalid invalid => exact .of_created (by simp [invalid, Except.isOk, Except.toBool]) fun _ => rfl
  | notCreated _ notCreated => exact .of_created (by simp [notCreated, Except.isOk, Except.toBool]) fun _ => rfl
  | negotiation validated created _ threw =>
      exact .of_created (fun _ _ => threw.streamId)
        (by simp [validated, created, Except.isOk, Except.toBool])

theorem DataChannelReturned.streamIdStep {channel : DataChannel}
    (returned : DataChannelReturned helpers dataChannelInit engine before channel after) :
    StreamIdStep
      ((helpers.validateSctpStreamParameters
          (sendSctpStreamParameters before.nextSendSctpStreamId dataChannelInit)).isOk &&
        (engine.createDataChannel
          (negotiatedDataChannelInit before.nextSendSctpStreamId dataChannelInit)).isOk)
      before.nextSendSctpStreamId after.nextSendSctpStreamId := by
  obtain ⟨validated, -, created, moved⟩ := returned
  refine .of_created (fun _ _ => ?_) (by simp [validated, created, Except.isOk, Except.toBool])
  rcases moved with ⟨-, rfl⟩ | ⟨-, _, _, setUp, -, rfl⟩
  · rfl
  · exact setUp.members.2.2.2.2.1

end Steps

/--
`SendDataChannel` moves the counter as `StreamIdStep` says, and a channel
it returns has the counter's value as its localId.
-/
theorem sendDataChannel_streamId (helpers : Helpers) (dataChannelInit : DataChannelInit)
    (engine : Engine) (handler : SendHandler) :
    Method.wp (sendDataChannel helpers dataChannelInit engine)
      (fun channel after => channel.localId = toString handler.nextSendSctpStreamId ∧
        StreamIdStep (opensDataChannel helpers handler (.sendDataChannel dataChannelInit, engine))
          handler.nextSendSctpStreamId after.nextSendSctpStreamId)
      (fun _ after =>
        StreamIdStep (opensDataChannel helpers handler (.sendDataChannel dataChannelInit, engine))
          handler.nextSendSctpStreamId after.nextSendSctpStreamId) handler :=
  Method.wp_mono (fun _ _ returned => ⟨returned.2.1, returned.streamIdStep⟩)
    (fun _ _ threw => threw.streamIdStep)
    (sendDataChannel_effect helpers dataChannelInit engine handler)

/-- Every call moves `nextSendSctpStreamId` as `StreamIdStep` says. -/
theorem call_streamIdStep (helpers : Helpers) (operation : Operation) (engine : Engine)
    (handler : SendHandler) :
    Method.wp (call helpers operation engine)
      (fun _ after => StreamIdStep (opensDataChannel helpers handler (operation, engine))
        handler.nextSendSctpStreamId after.nextSendSctpStreamId)
      (fun _ after => StreamIdStep (opensDataChannel helpers handler (operation, engine))
        handler.nextSendSctpStreamId after.nextSendSctpStreamId) handler := by
  cases operation with
  | send track encodings codecOptions =>
      simp only [call, Method.wp_bind, Method.wp_pure]
      exact Method.wp_mono (fun _ _ returned => .kept returned.streamId)
        (fun _ _ threw => .kept threw.streamId)
        (send_base helpers track encodings codecOptions engine handler)
  | sendDataChannel dataChannelInit =>
      simp only [call, Method.wp_bind, Method.wp_pure]
      exact Method.wp_mono (fun _ _ returned => returned.2)
        (fun _ _ threw => threw) (sendDataChannel_streamId helpers dataChannelInit engine handler)
  | stopSending localId =>
      refine Method.wp_mono (fun _ _ returned => .kept ?_) (fun _ _ threw => .kept ?_)
        (stopSending_effect localId engine handler)
      · obtain ⟨_, _, -, same⟩ := returned
        rw [same]
        rfl
      · exact threw.streamId
  | replaceTrack | setMaxSpatialLayer | getSenderStats =>
      refine Method.wp_mono (fun _ _ edits => ?_) (fun _ _ edits => ?_)
        (call_editsSender helpers (by rfl) engine handler) <;>
      exact .kept edits.members.2.2.2.2
  | restartIce iceParameters =>
      refine Method.wp_mono (fun _ _ returned => .kept ?_) (fun _ _ threw => .kept ?_)
        (restartIce_effect iceParameters engine handler)
      · have same := congrArg Handler.nextSendSctpStreamId returned
        split at same <;> exact same
      · rcases threw.2 with same | same <;>
          exact (congrArg Handler.nextSendSctpStreamId same :)

/-- Send handler steps advance the counter exactly at the channels they open. -/
theorem advancesStreamIds (helpers : Helpers) :
    AdvancesStreamIds (step helpers) (·.nextSendSctpStreamId) (opensDataChannel helpers) :=
  fun handler call _ stepped =>
    (Method.wp_state? (call_streamIdStep helpers call.1 call.2 handler) stepped :)

end SendHandler

namespace RecvHandler

/--
Whether a call gets past `CreateDataChannel`: a `ReceiveDataChannel` whose
stream parameters validate and whose channel the engine creates.
-/
def opensDataChannel (helpers : Helpers) (handler : Handler) : Operation × Engine → Bool
  | (.receiveDataChannel dataChannelInit, engine) =>
      (helpers.validateSctpStreamParameters
          (recvSctpStreamParameters handler.nextSendSctpStreamId dataChannelInit)).isOk &&
        (engine.createDataChannel
          (negotiatedDataChannelInit handler.nextSendSctpStreamId dataChannelInit)).isOk
  | _ => false

section Steps

variable {helpers : Helpers} {dataChannelInit : DataChannelInit} {engine : Engine}
  {before after : Handler}

theorem ReceiveThrew.streamId {id kind : String} {rtpParameters : RtpParameters}
    (threw : ReceiveThrew id kind rtpParameters before after) :
    after.nextSendSctpStreamId = before.nextSendSctpStreamId := by
  cases threw with
  | offer | remoteDescription => rfl
  | answer _ transport =>
      rcases transport with rfl | ⟨-, rfl⟩ | setUp
      · rfl
      · rfl
      · exact setUp.members.2.2.2.2.1

theorem ReceiveReturned.streamId {id kind : String} {rtpParameters : RtpParameters}
    {result : RecvResult} (returned : ReceiveReturned id kind rtpParameters before result after) :
    after.nextSendSctpStreamId = before.nextSendSctpStreamId := by
  obtain ⟨-, _, _, _, -, setUp, -, rfl⟩ := returned
  exact setUp.members.2.2.2.2.1

theorem DataSectionThrew.streamId (threw : DataSectionThrew before after) :
    after.nextSendSctpStreamId = before.nextSendSctpStreamId := by
  cases threw with
  | offer | answer => rfl
  | connect _ threw =>
      obtain ⟨-, rfl⟩ := threw
      rfl
  | describe _ setUp => exact setUp.members.2.2.2.2.1

theorem DataChannelThrew.streamIdStep
    (threw : DataChannelThrew helpers dataChannelInit engine before after) :
    StreamIdStep
      ((helpers.validateSctpStreamParameters
          (recvSctpStreamParameters before.nextSendSctpStreamId dataChannelInit)).isOk &&
        (engine.createDataChannel
          (negotiatedDataChannelInit before.nextSendSctpStreamId dataChannelInit)).isOk)
      before.nextSendSctpStreamId after.nextSendSctpStreamId := by
  cases threw with
  | invalid invalid => exact .of_created (by simp [invalid, Except.isOk, Except.toBool]) fun _ => rfl
  | notCreated _ notCreated => exact .of_created (by simp [notCreated, Except.isOk, Except.toBool]) fun _ => rfl
  | negotiation validated created _ threw =>
      exact .of_created (fun _ _ => threw.streamId)
        (by simp [validated, created, Except.isOk, Except.toBool])

theorem DataChannelReturned.streamIdStep {channel : DataChannel}
    (returned : DataChannelReturned helpers dataChannelInit engine before channel after) :
    StreamIdStep
      ((helpers.validateSctpStreamParameters
          (recvSctpStreamParameters before.nextSendSctpStreamId dataChannelInit)).isOk &&
        (engine.createDataChannel
          (negotiatedDataChannelInit before.nextSendSctpStreamId dataChannelInit)).isOk)
      before.nextSendSctpStreamId after.nextSendSctpStreamId := by
  obtain ⟨validated, -, created, moved⟩ := returned
  refine .of_created (fun _ _ => ?_) (by simp [validated, created, Except.isOk, Except.toBool])
  rcases moved with ⟨-, rfl⟩ | ⟨-, _, _, -, setUp, rfl⟩
  · rfl
  · exact setUp.members.2.2.2.2.1

end Steps

/--
`ReceiveDataChannel` moves the counter as `StreamIdStep` says, and a
channel it returns has the counter's value as its localId.
-/
theorem receiveDataChannel_streamId (helpers : Helpers) (dataChannelInit : DataChannelInit)
    (engine : Engine) (handler : Handler) :
    Method.wp (receiveDataChannel helpers dataChannelInit engine)
      (fun channel after => channel.localId = toString handler.nextSendSctpStreamId ∧
        StreamIdStep
          (opensDataChannel helpers handler (.receiveDataChannel dataChannelInit, engine))
          handler.nextSendSctpStreamId after.nextSendSctpStreamId)
      (fun _ after =>
        StreamIdStep
          (opensDataChannel helpers handler (.receiveDataChannel dataChannelInit, engine))
          handler.nextSendSctpStreamId after.nextSendSctpStreamId) handler :=
  Method.wp_mono (fun _ _ returned => ⟨returned.2.1, returned.streamIdStep⟩)
    (fun _ _ threw => threw.streamIdStep)
    (receiveDataChannel_effect helpers dataChannelInit engine handler)

/-- Every call moves `nextSendSctpStreamId` as `StreamIdStep` says. -/
theorem call_streamIdStep (helpers : Helpers) (operation : Operation) (engine : Engine)
    (handler : Handler) :
    Method.wp (call helpers operation engine)
      (fun _ after => StreamIdStep (opensDataChannel helpers handler (operation, engine))
        handler.nextSendSctpStreamId after.nextSendSctpStreamId)
      (fun _ after => StreamIdStep (opensDataChannel helpers handler (operation, engine))
        handler.nextSendSctpStreamId after.nextSendSctpStreamId) handler := by
  cases operation with
  | receive id kind rtpParameters =>
      simp only [call, Method.wp_bind, Method.wp_pure]
      exact Method.wp_mono (fun _ _ returned => .kept returned.streamId)
        (fun _ _ threw => .kept threw.streamId)
        (receive_effect id kind rtpParameters engine handler)
  | receiveDataChannel dataChannelInit =>
      simp only [call, Method.wp_bind, Method.wp_pure]
      exact Method.wp_mono (fun _ _ returned => returned.2) (fun _ _ threw => threw)
        (receiveDataChannel_streamId helpers dataChannelInit engine handler)
  | stopReceiving localId =>
      refine Method.wp_mono (fun _ _ returned => .kept ?_) (fun _ _ threw => .kept ?_)
        (stopReceiving_effect localId engine handler)
      · obtain ⟨_, _, -, rfl⟩ := returned
        rfl
      · rcases threw with rfl | ⟨_, _, -, rfl⟩ <;> rfl
  | getReceiverStats localId =>
      exact Method.wp_mono (fun _ _ same => .kept (by rw [same]))
        (fun _ _ same => .kept (by rw [same])) (getReceiverStats_effect localId engine handler)
  | restartIce iceParameters =>
      refine Method.wp_mono (fun _ _ returned => .kept ?_) (fun _ _ threw => .kept ?_)
        (restartIce_effect iceParameters engine handler)
      · rw [returned]
        split <;> rfl
      · rw [threw.2]
        rfl

/-- Receive handler steps advance the counter exactly at the channels they open. -/
theorem advancesStreamIds (helpers : Helpers) :
    AdvancesStreamIds (step helpers) (·.nextSendSctpStreamId) (opensDataChannel helpers) :=
  fun handler call _ stepped =>
    (Method.wp_state? (call_streamIdStep helpers call.1 call.2 handler) stepped :)

end RecvHandler

/-! ## Runs of the handlers -/

/--
In every run of a send handler and of a receive handler,
`nextSendSctpStreamId` moves only at the calls that get past
`CreateDataChannel`, by one modulo `SctpNumStreamsMis`.  A channel such a
call returns has the counter's value as its localId and, when
`validateSctpStreamParameters` only fills missing fields, as its
`sctpStreamParameters.streamId`; the engine created it negotiated, with the
counter's value as its id.  From a counter below `SctpNumStreamsMis`, the
counter stays below it and the channels take consecutive ids modulo 1024,
any 1024 consecutive ones distinct.
-/
theorem data_channels_take_consecutive_stream_ids (helpers : Helpers)
    (validateKeepsStreamId : ∀ parameters validated,
      helpers.validateSctpStreamParameters parameters = .ok validated →
        validated.streamId = parameters.streamId) :
    (AdvancesStreamIds (SendHandler.step helpers) (·.nextSendSctpStreamId)
        (SendHandler.opensDataChannel helpers) ∧
      (∀ (dataChannelInit : DataChannelInit) (engine : Engine) (handler after : SendHandler)
          (channel : DataChannel),
        SendHandler.sendDataChannel helpers dataChannelInit engine handler =
            .returned after channel →
          channel.localId = toString handler.nextSendSctpStreamId ∧
            channel.sctpStreamParameters.streamId = handler.nextSendSctpStreamId ∧
            engine.createDataChannel
              (negotiatedDataChannelInit handler.nextSendSctpStreamId dataChannelInit) = .ok ()) ∧
      ∀ (start final : SendHandler) (calls : List (SendHandler.Operation × Engine)),
        start.nextSendSctpStreamId < sctpNumStreamsMis →
        runCalls (SendHandler.step helpers) start calls = some final →
          NumbersStreamIds start.nextSendSctpStreamId final.nextSendSctpStreamId
            (openedStreamIds (SendHandler.step helpers) (·.nextSendSctpStreamId)
              (SendHandler.opensDataChannel helpers) start calls)) ∧
    (AdvancesStreamIds (RecvHandler.step helpers) (·.nextSendSctpStreamId)
        (RecvHandler.opensDataChannel helpers) ∧
      (∀ (dataChannelInit : DataChannelInit) (engine : Engine) (handler after : Handler)
          (channel : DataChannel),
        RecvHandler.receiveDataChannel helpers dataChannelInit engine handler =
            .returned after channel →
          channel.localId = toString handler.nextSendSctpStreamId ∧
            channel.sctpStreamParameters.streamId = handler.nextSendSctpStreamId ∧
            engine.createDataChannel
              (negotiatedDataChannelInit handler.nextSendSctpStreamId dataChannelInit) = .ok ()) ∧
      ∀ (start final : Handler) (calls : List (RecvHandler.Operation × Engine)),
        start.nextSendSctpStreamId < sctpNumStreamsMis →
        runCalls (RecvHandler.step helpers) start calls = some final →
          NumbersStreamIds start.nextSendSctpStreamId final.nextSendSctpStreamId
            (openedStreamIds (RecvHandler.step helpers) (·.nextSendSctpStreamId)
              (RecvHandler.opensDataChannel helpers) start calls)) :=
  ⟨⟨SendHandler.advancesStreamIds helpers,
      fun dataChannelInit engine handler _ _ returned =>
        let ⟨validated, localId, created, _⟩ := Method.wp_returned
          (SendHandler.sendDataChannel_effect helpers dataChannelInit engine handler) returned
        ⟨localId, validateKeepsStreamId _ _ validated, created⟩,
      fun _ _ calls => numbersStreamIds_run (SendHandler.advancesStreamIds helpers) calls⟩,
    ⟨RecvHandler.advancesStreamIds helpers,
      fun dataChannelInit engine handler _ _ returned =>
        let ⟨validated, localId, created, _⟩ := Method.wp_returned
          (RecvHandler.receiveDataChannel_effect helpers dataChannelInit engine handler) returned
        ⟨localId, validateKeepsStreamId _ _ validated, created⟩,
      fun _ _ calls => numbersStreamIds_run (RecvHandler.advancesStreamIds helpers) calls⟩⟩

/-- Data channel options: ordered, without limits or subprotocol. -/
def exampleDataChannelInit : DataChannelInit where
  ordered := true
  maxRetransmitTime := none
  maxRetransmits := none
  protocol := ""

theorem data_channels_take_consecutive_stream_ids_first_channels :
    (∀ parameters validated,
      exampleHelpers.validateSctpStreamParameters parameters = .ok validated →
        validated.streamId = parameters.streamId) ∧
    (∃ final, runCalls (SendHandler.step exampleHelpers) exampleSendHandler
        [(.sendDataChannel exampleDataChannelInit, exampleEngine "" []),
          (.sendDataChannel exampleDataChannelInit, exampleEngine "" [])] = some final ∧
      NumbersStreamIds 0 final.nextSendSctpStreamId [0, 1]) ∧
    ∃ final, runCalls (RecvHandler.step exampleHelpers) exampleHandler
        [(.receiveDataChannel exampleDataChannelInit, exampleEngine "" [])] = some final ∧
      NumbersStreamIds 0 final.nextSendSctpStreamId [0] :=
  have keeps : ∀ parameters validated,
      exampleHelpers.validateSctpStreamParameters parameters = .ok validated →
        validated.streamId = parameters.streamId := fun _ _ validated => by
    cases validated
    rfl
  ⟨keeps,
    ⟨_, rfl, (data_channels_take_consecutive_stream_ids exampleHelpers keeps).1.2.2
      exampleSendHandler _
      [(.sendDataChannel exampleDataChannelInit, exampleEngine "" []),
        (.sendDataChannel exampleDataChannelInit, exampleEngine "" [])] (by decide) rfl⟩,
    ⟨_, rfl, (data_channels_take_consecutive_stream_ids exampleHelpers keeps).2.2.2
      exampleHandler _
      [(.receiveDataChannel exampleDataChannelInit, exampleEngine "" [])] (by decide) rfl⟩⟩

end MediasoupClient
