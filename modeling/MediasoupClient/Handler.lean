import MediasoupClient.Method

namespace MediasoupClient

/-!
# Handlers and their engine

A `Handler` drives a WebRTC `PeerConnection`, the engine, and fabricates
the remote side with a `Sdp::RemoteSdp`.  A handler method is a function of
the handler's state that returns, throws, or reaches undefined behaviour.
An exception leaves the state as it is at the throw: nothing is rolled back
unless the method does it.

The engine is not part of the source.  Each engine call a method makes is
answered by a reply given with the method call: a value, or the exception
the call throws.  What the engine keeps that the handler reads back (its
transceivers, their mids, directions and tracks) is part of the state.
-/

/--
States reached from `start` by calls that return or throw, each allowed by
`allowed` in the state it is made in.  `step` is the state a call leaves.
-/
inductive Reachable {σ κ : Type} (step : σ → κ → Option σ) (allowed : σ → κ → Prop)
    (start : σ) : σ → Prop where
  | refl : Reachable step allowed start start
  | step {state next : σ} (call : κ) : Reachable step allowed start state →
      allowed state call → step state call = some next →
      Reachable step allowed start next

/-- The state after calls made one after another, `none` once one of them is undefined. -/
def runCalls {σ κ : Type} (step : σ → κ → Option σ) (state : σ) : List κ → Option σ
  | [] => some state
  | call :: rest => (step state call).bind fun next => runCalls step next rest

/-- Calls made one after another from a reachable state reach their last state. -/
theorem Reachable.runCalls {σ κ : Type} {step : σ → κ → Option σ} {start : σ} :
    ∀ {state final : σ} (calls : List κ), Reachable step (fun _ _ => True) start state →
      MediasoupClient.runCalls step state calls = some final →
        Reachable step (fun _ _ => True) start final
  | _, _, [], reached, ran => by
      cases ran
      exact reached
  | _, _, call :: rest, reached, ran => by
      obtain ⟨_, stepped, ranRest⟩ := Option.bind_eq_some.mp ran
      exact Reachable.runCalls rest (.step call reached trivial stepped) ranRest

/-- `webrtc::RtpTransceiverDirection`. -/
inductive Direction where
  | sendRecv
  | sendOnly
  | recvOnly
  | inactive
  deriving Repr, DecidableEq

/-- A track given to `Send`: its id and its kind. -/
structure Track where
  id : String
  kind : String
  deriving Repr, DecidableEq

/--
An engine transceiver: its mid once negotiated, its direction, the track
of its sender, and the `active` flags of its sender's encodings.
-/
structure Transceiver where
  mid : Option String
  direction : Direction
  track : Option String
  encodingsActive : List Bool
  deriving Repr, DecidableEq

/-- The members of the parsed local description that the handlers read. -/
structure LocalSdp where
  media : List LocalMediaObject
  deriving Repr, DecidableEq

/--
The members of `webrtc::DataChannelInit` the handlers read or write; the
handlers set `negotiated` and `id` before `CreateDataChannel`.
-/
structure DataChannelInit where
  ordered : Bool
  maxRetransmitTime : Option Nat
  maxRetransmits : Option Nat
  protocol : String
  negotiated : Bool := false
  id : Option Nat := none
  deriving Repr, DecidableEq

/-- `dataChannelInit.negotiated = true; dataChannelInit.id = streamId;` -/
def negotiatedDataChannelInit (streamId : Nat) (dataChannelInit : DataChannelInit) :
    DataChannelInit :=
  { dataChannelInit with negotiated := true, id := some streamId }

/--
The engine's replies during one handler call.  A call makes each kind of
engine call at most once; a reply the call does not reach is not read.
-/
structure Engine where
  addTransceiver : Bool
  createOffer : Except String LocalSdp
  createAnswer : Except String LocalSdp
  setLocalDescription : Except String Unit
  setRemoteDescription : Except String Unit
  getLocalDescription : Except String LocalSdp
  /-- The mid of the transceiver `Send` added, after `SetLocalDescription`. -/
  mid : Option String
  /-- The listener's `OnConnect`. -/
  onConnect : Except String Unit
  /-- `CreateDataChannel`, given the options the handler passes. -/
  createDataChannel : DataChannelInit → Except String Unit
  setParameters : Except String Unit
  getStats : Except String Unit

/-- The members of a `Handler`, with the engine's transceivers. -/
structure Handler where
  remoteSdp : Sdp.RemoteSdp
  transportReady : Bool
  /-- The engine's transceivers, in the order it created them. -/
  transceivers : List Transceiver
  /-- Each localId's transceiver, as its position in `transceivers`. -/
  mapMidTransceiver : StringMap Nat
  hasDataChannelMediaSection : Bool
  nextSendSctpStreamId : Nat
  deriving DecidableEq

/-- `SctpNumStreamsMis`. -/
def sctpNumStreamsMis : Nat := 1024

/-- The message of a missing `mapMidTransceiver` entry. -/
def transceiverNotFound : String := "associated RtpTransceiver not found"

/-- The message of `std::optional::value` on an empty optional. -/
def badOptionalAccess : String := "bad optional access"

/-- The DTLS role `SetupTransport` gives the remote side. -/
def remoteDtlsRole (localDtlsRole : String) : String :=
  if localDtlsRole = "client" then "server" else "client"

@[simp] theorem remoteDtlsRole_server : remoteDtlsRole "server" = "client" := by
  decide

@[simp] theorem remoteDtlsRole_client : remoteDtlsRole "client" = "server" := by
  decide

namespace Handler

/-- `Handler::Handler`: a new engine and the remote SDP's constructor. -/
def create (iceParameters : IceParameters) (iceCandidates : List IceCandidate)
    (dtlsParameters : DtlsParameters) (sctpParameters : Option SctpParameters) :
    Except Failure Handler :=
  (Sdp.RemoteSdp.create iceParameters iceCandidates dtlsParameters
      sctpParameters).map fun remoteSdp =>
    { remoteSdp := remoteSdp
      transportReady := false
      transceivers := []
      mapMidTransceiver := .empty
      hasDataChannelMediaSection := false
      nextSendSctpStreamId := 0 }

/-- A new handler holds the remote SDP the constructor builds, and nothing else yet. -/
theorem create_eq {iceParameters : IceParameters}
    {iceCandidates : List IceCandidate} {dtlsParameters : DtlsParameters}
    {sctpParameters : Option SctpParameters} {handler : Handler}
    (created : create iceParameters iceCandidates dtlsParameters sctpParameters =
      .ok handler) :
    ∃ remoteSdp,
      Sdp.RemoteSdp.create iceParameters iceCandidates dtlsParameters sctpParameters =
          .ok remoteSdp ∧
        handler =
          { remoteSdp := remoteSdp, transportReady := false, transceivers := []
            mapMidTransceiver := .empty, hasDataChannelMediaSection := false
            nextSendSctpStreamId := 0 } := by
  unfold create at created
  cases built : Sdp.RemoteSdp.create iceParameters iceCandidates dtlsParameters
      sctpParameters <;>
    simp only [built, Except.map, reduceCtorEq, Except.ok.injEq] at created
  exact ⟨_, rfl, created.symm⟩

/-- A new handler's remote SDP is the one `Sdp::RemoteSdp`'s constructor builds. -/
theorem create_remoteSdp {iceParameters : IceParameters}
    {iceCandidates : List IceCandidate} {dtlsParameters : DtlsParameters}
    {sctpParameters : Option SctpParameters} {handler : Handler}
    (created : create iceParameters iceCandidates dtlsParameters sctpParameters =
      .ok handler) :
    Sdp.RemoteSdp.create iceParameters iceCandidates dtlsParameters sctpParameters =
      .ok handler.remoteSdp := by
  obtain ⟨_, built, rfl⟩ := create_eq created
  exact built

/-- Replace the remote SDP by what one of its methods returned. -/
def updateRemoteSdp (result : Except Failure Sdp.RemoteSdp) :
    Method Handler Unit := do
  let remoteSdp ← Method.remote result
  Method.modify fun handler => { handler with remoteSdp := remoteSdp }

/-- `remoteSdp->GetSdp()`: the session version advances. -/
def getSdp : Method Handler Unit :=
  Method.modify fun handler =>
    { handler with remoteSdp := handler.remoteSdp.getSdp.2 }

/--
`SetupTransport`: the remote side takes the opposite DTLS role, the
listener's `OnConnect` may throw, then the transport is ready.  The local
DTLS parameters it extracts go only to the listener.
-/
def setupTransport (localDtlsRole : String) (onConnect : Except String Unit) :
    Method Handler Unit := do
  Method.modify fun handler =>
    { handler with
      remoteSdp := handler.remoteSdp.updateDtlsRole (remoteDtlsRole localDtlsRole) }
  Method.engine onConnect
  Method.modify fun handler => { handler with transportReady := true }

/-- `mapMidTransceiver.find(localId)`, throwing when there is no entry. -/
def findTransceiver (localId : String) : Method Handler Nat := do
  let handler ← Method.read
  Method.getOr (handler.mapMidTransceiver.find? localId)
    (Method.throw transceiverNotFound)

/-- `transceiver->mid().value()`. -/
def transceiverMid (transceiver : Nat) : Method Handler String := do
  let handler ← Method.read
  let current ← Method.getOr handler.transceivers[transceiver]? Method.undefined
  Method.getOr current.mid (Method.throw badOptionalAccess)

/--
The engine's answer to a remote offer that has not changed the local
sections: the remote description, an answer, and the local description.
-/
def answerRemoteOffer (engine : Engine) : Method Handler Unit := do
  getSdp
  Method.engine engine.setRemoteDescription
  let _ ← Method.engine engine.createAnswer
  Method.engine engine.setLocalDescription

/-- Change one engine transceiver. -/
def updateTransceiver (transceiver : Nat) (update : Transceiver → Transceiver) :
    Method Handler Unit :=
  Method.modify fun handler =>
    { handler with
      transceivers := handler.transceivers.modify update transceiver }

/-! ## The members the shared steps leave -/

/-- The members once `SetupTransport` has given the remote side `role`. -/
def readyWithRole (role : String) (handler : Handler) : Handler :=
  { handler with remoteSdp := handler.remoteSdp.updateDtlsRole role, transportReady := true }

/-- What `if (!this->transportReady) SetupTransport(...)` leaves when it completes. -/
def SetsUpTransport (role : String) (before after : Handler) : Prop :=
  (before.transportReady = true ∧ after = before) ∨
    (before.transportReady = false ∧ after = readyWithRole role before)

/-- What it leaves when the listener's `OnConnect` throws: the role given, the transport not ready. -/
def ConnectThrew (role : String) (before after : Handler) : Prop :=
  before.transportReady = false ∧
    after = { before with remoteSdp := before.remoteSdp.updateDtlsRole role }

/-- The members after `remoteSdp->GetSdp()`. -/
def emitSdp (handler : Handler) : Handler :=
  { handler with remoteSdp := handler.remoteSdp.getSdp.2 }

@[simp] theorem remoteSdp_readyWithRole (role : String) (handler : Handler) :
    (readyWithRole role handler).remoteSdp = handler.remoteSdp.updateDtlsRole role :=
  rfl

@[simp] theorem transportReady_readyWithRole (role : String) (handler : Handler) :
    (readyWithRole role handler).transportReady = true :=
  rfl

@[simp] theorem transceivers_readyWithRole (role : String) (handler : Handler) :
    (readyWithRole role handler).transceivers = handler.transceivers :=
  rfl

@[simp] theorem mapMidTransceiver_readyWithRole (role : String) (handler : Handler) :
    (readyWithRole role handler).mapMidTransceiver = handler.mapMidTransceiver :=
  rfl

@[simp] theorem hasDataChannelMediaSection_readyWithRole (role : String) (handler : Handler) :
    (readyWithRole role handler).hasDataChannelMediaSection =
      handler.hasDataChannelMediaSection :=
  rfl

@[simp] theorem nextSendSctpStreamId_readyWithRole (role : String) (handler : Handler) :
    (readyWithRole role handler).nextSendSctpStreamId = handler.nextSendSctpStreamId :=
  rfl

@[simp] theorem remoteSdp_emitSdp (handler : Handler) :
    (emitSdp handler).remoteSdp = handler.remoteSdp.getSdp.2 :=
  rfl

@[simp] theorem transportReady_emitSdp (handler : Handler) :
    (emitSdp handler).transportReady = handler.transportReady :=
  rfl

@[simp] theorem transceivers_emitSdp (handler : Handler) :
    (emitSdp handler).transceivers = handler.transceivers :=
  rfl

@[simp] theorem mapMidTransceiver_emitSdp (handler : Handler) :
    (emitSdp handler).mapMidTransceiver = handler.mapMidTransceiver :=
  rfl

@[simp] theorem hasDataChannelMediaSection_emitSdp (handler : Handler) :
    (emitSdp handler).hasDataChannelMediaSection = handler.hasDataChannelMediaSection :=
  rfl

@[simp] theorem nextSendSctpStreamId_emitSdp (handler : Handler) :
    (emitSdp handler).nextSendSctpStreamId = handler.nextSendSctpStreamId :=
  rfl

/-- The members once a data channel method has taken the stream id. -/
def advanceStreamId (handler : Handler) : Handler :=
  { handler with
    nextSendSctpStreamId := (handler.nextSendSctpStreamId + 1) % sctpNumStreamsMis }

/-- The members after a write to one transceiver. -/
def modifyTransceiver (transceiver : Nat) (update : Transceiver → Transceiver)
    (handler : Handler) : Handler :=
  { handler with transceivers := handler.transceivers.modify update transceiver }

@[simp] theorem remoteSdp_advanceStreamId (handler : Handler) :
    (advanceStreamId handler).remoteSdp = handler.remoteSdp :=
  rfl

@[simp] theorem transportReady_advanceStreamId (handler : Handler) :
    (advanceStreamId handler).transportReady = handler.transportReady :=
  rfl

@[simp] theorem transceivers_advanceStreamId (handler : Handler) :
    (advanceStreamId handler).transceivers = handler.transceivers :=
  rfl

@[simp] theorem mapMidTransceiver_advanceStreamId (handler : Handler) :
    (advanceStreamId handler).mapMidTransceiver = handler.mapMidTransceiver :=
  rfl

@[simp] theorem hasDataChannelMediaSection_advanceStreamId (handler : Handler) :
    (advanceStreamId handler).hasDataChannelMediaSection = handler.hasDataChannelMediaSection :=
  rfl

@[simp] theorem nextSendSctpStreamId_advanceStreamId (handler : Handler) :
    (advanceStreamId handler).nextSendSctpStreamId =
      (handler.nextSendSctpStreamId + 1) % sctpNumStreamsMis :=
  rfl

@[simp] theorem remoteSdp_modifyTransceiver (transceiver : Nat)
    (update : Transceiver → Transceiver) (handler : Handler) :
    (modifyTransceiver transceiver update handler).remoteSdp = handler.remoteSdp :=
  rfl

@[simp] theorem transportReady_modifyTransceiver (transceiver : Nat)
    (update : Transceiver → Transceiver) (handler : Handler) :
    (modifyTransceiver transceiver update handler).transportReady = handler.transportReady :=
  rfl

@[simp] theorem transceivers_modifyTransceiver (transceiver : Nat)
    (update : Transceiver → Transceiver) (handler : Handler) :
    (modifyTransceiver transceiver update handler).transceivers =
      handler.transceivers.modify update transceiver :=
  rfl

@[simp] theorem mapMidTransceiver_modifyTransceiver (transceiver : Nat)
    (update : Transceiver → Transceiver) (handler : Handler) :
    (modifyTransceiver transceiver update handler).mapMidTransceiver =
      handler.mapMidTransceiver :=
  rfl

@[simp] theorem hasDataChannelMediaSection_modifyTransceiver (transceiver : Nat)
    (update : Transceiver → Transceiver) (handler : Handler) :
    (modifyTransceiver transceiver update handler).hasDataChannelMediaSection =
      handler.hasDataChannelMediaSection :=
  rfl

@[simp] theorem nextSendSctpStreamId_modifyTransceiver (transceiver : Nat)
    (update : Transceiver → Transceiver) (handler : Handler) :
    (modifyTransceiver transceiver update handler).nextSendSctpStreamId =
      handler.nextSendSctpStreamId :=
  rfl

/-- A stop's close: the localId's transceiver found, its mid read, its section closed. -/
def ClosesSection (localId : String) (before : Handler) (transceiver : Nat)
    (closed : Sdp.RemoteSdp) : Prop :=
  ∃ mid, before.mapMidTransceiver.find? localId = some transceiver ∧
    before.transceivers[transceiver]?.bind Transceiver.mid = some mid ∧
    before.remoteSdp.closeMediaSection mid = .ok closed

namespace SetsUpTransport

variable {role : String} {before after : Handler}

/-- The set-up makes the transport ready and changes no member but the remote SDP's role. -/
theorem members (setUp : SetsUpTransport role before after) :
    after.transportReady = true ∧ after.transceivers = before.transceivers ∧
      after.mapMidTransceiver = before.mapMidTransceiver ∧
      after.hasDataChannelMediaSection = before.hasDataChannelMediaSection ∧
      after.nextSendSctpStreamId = before.nextSendSctpStreamId ∧
      (after.remoteSdp = before.remoteSdp ∨ after.remoteSdp = before.remoteSdp.updateDtlsRole role) := by
  rcases setUp with ⟨ready, rfl⟩ | ⟨-, rfl⟩
  · exact ⟨ready, rfl, rfl, rfl, rfl, .inl rfl⟩
  · exact ⟨rfl, rfl, rfl, rfl, rfl, .inr rfl⟩

end SetsUpTransport

end Handler

/-- A transceiver read at an index, with a mid. -/
theorem bind_mid_of_getElem? {transceivers : List Transceiver} {transceiver : Nat}
    {current : Transceiver} {mid : String} (found : transceivers[transceiver]? = some current)
    (named : current.mid = some mid) :
    transceivers[transceiver]?.bind Transceiver.mid = some mid := by
  rw [found]
  exact named

end MediasoupClient
