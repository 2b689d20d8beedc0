import MediasoupClient.RemoteSdp

namespace MediasoupClient.Sdp

/-!
# The session version

`GetSdp` reads `origin.sessionVersion` as `uint32_t`, pre-increments it and
stores it back before writing the document; no other method touches
`origin`.  So the document a `GetSdp` call emits carries the number of
`GetSdp` calls made so far, itself included, modulo `2 ^ 32`: each emission
is one more than the previous until the `2 ^ 32`-th, which wraps to `0`.
-/

namespace RemoteSdp

/-- `GetSdp` emits the stored version plus one, narrowed, and stores it. -/
@[simp] theorem getSdp_version (sdp : RemoteSdp) :
    sdp.getSdp.1.origin.sessionVersion =
      (sdp.sdpObject.origin.sessionVersion % 2 ^ 32 + 1) % 2 ^ 32 :=
  rfl

/-- The document `GetSdp` emits is the one it leaves in the state. -/
@[simp] theorem getSdp_stored (sdp : RemoteSdp) :
    sdp.getSdp.2.sdpObject = sdp.getSdp.1 :=
  rfl

/-- No call other than `GetSdp` changes `origin`. -/
theorem origin_step {sdp next : RemoteSdp} {operation : Operation}
    (notGetSdp : operation ≠ .getSdp)
    (stepped : sdp.step operation = .ok next) :
    next.sdpObject.origin = sdp.sdpObject.origin := by
  cases operation with
  | createAnswer =>
      obtain ⟨_, _, ⟨_, rfl⟩ | ⟨reuse, replaced⟩⟩ := step_createAnswer_ok stepped
      · rfl
      · obtain ⟨_, _, rfl⟩ := replaceMediaSection_ok reuse replaced
        rfl
  | sendSctpAssociation =>
      obtain ⟨_, _, rfl⟩ := sendSctpAssociation_ok stepped
      rfl
  | recvSctpAssociation =>
      obtain ⟨_, _, rfl⟩ := recvSctpAssociation_ok stepped
      rfl
  | createOffer =>
      obtain ⟨_, _, rfl⟩ := createOffer_ok stepped
      rfl
  | disableMediaSection =>
      obtain ⟨_, _, rfl⟩ := disableMediaSection_ok stepped
      rfl
  | closeMediaSection =>
      obtain ⟨_, _, rfl⟩ := closeMediaSection_ok stepped
      rfl
  | getSdp =>
      exact absurd rfl notGetSdp
  | updateIceParameters | updateDtlsRole | getNextMediaSectionIdx =>
      cases stepped
      rfl

/-- One completed call adds one to the version exactly when it is `GetSdp`. -/
theorem version_step {sdp next : RemoteSdp} {operation : Operation}
    (bounded : sdp.sdpObject.origin.sessionVersion < 2 ^ 32)
    (stepped : sdp.step operation = .ok next) :
    next.sdpObject.origin.sessionVersion =
      (sdp.sdpObject.origin.sessionVersion + [operation].count .getSdp) % 2 ^ 32 := by
  by_cases isGetSdp : operation = .getSdp
  · subst isGetSdp
    cases stepped
    rw [getSdp_stored, getSdp_version, List.count_singleton_self, Nat.mod_eq_of_lt bounded]
  · have absent : Operation.getSdp ∉ [operation] :=
      fun member => isGetSdp (List.mem_singleton.mp member).symm
    rw [origin_step isGetSdp stepped, List.count_eq_zero_of_not_mem absent,
      Nat.add_zero, Nat.mod_eq_of_lt bounded]

/--
After a run from a state whose version fits in `uint32_t`, the version is
the start's plus the number of `GetSdp` calls, modulo `2 ^ 32`.
-/
theorem version_run {sdp next : RemoteSdp} {operations : List Operation}
    (bounded : sdp.sdpObject.origin.sessionVersion < 2 ^ 32)
    (ran : sdp.run operations = .ok next) :
    next.sdpObject.origin.sessionVersion =
      (sdp.sdpObject.origin.sessionVersion + operations.count .getSdp) % 2 ^ 32 := by
  induction operations generalizing sdp with
  | nil =>
      cases ran
      rw [List.count_nil, Nat.add_zero, Nat.mod_eq_of_lt bounded]
  | cons operation rest inductionHypothesis =>
      simp only [run] at ran
      split at ran
      · rename_i middle stepped
        have middleVersion := version_step bounded stepped
        rw [inductionHypothesis (middleVersion ▸ Nat.mod_lt _ (by decide)) ran,
          middleVersion, Nat.mod_add_mod, Nat.add_assoc, ← List.count_append]
        rfl
      · cases ran

/-- A run of `GetSdp` calls always completes. -/
theorem run_replicate_getSdp (sdp : RemoteSdp) (count : Nat) :
    ∃ next, sdp.run (List.replicate count .getSdp) = .ok next := by
  induction count generalizing sdp with
  | zero => exact ⟨sdp, rfl⟩
  | succ count inductionHypothesis => exact inductionHypothesis sdp.getSdp.2

/--
In every run from the constructor, no call other than `GetSdp` changes
`origin`, and the `GetSdp` call made after `before` emits the number of
`GetSdp` calls in `before`, plus one, modulo `2 ^ 32`.
-/
theorem getSdp_emits_call_count {iceParameters : IceParameters}
    {iceCandidates : List IceCandidate} {dtlsParameters : DtlsParameters}
    {sctpParameters : Option SctpParameters} {start : RemoteSdp}
    (created :
      create iceParameters iceCandidates dtlsParameters sctpParameters =
        .ok start) :
    (∀ (sdp next : RemoteSdp) (operation : Operation), operation ≠ .getSdp →
      sdp.step operation = .ok next →
      next.sdpObject.origin.sessionVersion = sdp.sdpObject.origin.sessionVersion) ∧
    ∀ (before : List Operation) (sdp : RemoteSdp), start.run before = .ok sdp →
      sdp.getSdp.1.origin.sessionVersion =
        (before.count .getSdp + 1) % 2 ^ 32 := by
  obtain ⟨_, rfl⟩ := create_ok created
  refine ⟨fun _ _ _ notGetSdp stepped => by rw [origin_step notGetSdp stepped],
    fun before sdp ran => ?_⟩
  rw [getSdp_version, version_run (Nat.two_pow_pos 32) ran]
  simp [initialState]

theorem getSdp_emits_call_count_example :
    ∃ sdp,
      exampleStart.run [.getSdp, .createOffer "a" "audio" exampleRtpParameters "s" "t",
          .getSdp] = .ok sdp ∧
        sdp.getSdp.1.origin.sessionVersion = 3 :=
  have ran : exampleStart.run [.getSdp, .createOffer "a" "audio" exampleRtpParameters "s" "t",
      .getSdp] = .ok _ := rfl
  ⟨_, ran, (getSdp_emits_call_count create_example).2 _ _ ran⟩

/--
After `2 ^ 32 - 2` calls of `GetSdp`, two more emit `2 ^ 32 - 1` and then
`0`: the second is not greater than the first.
-/
theorem getSdp_version_wraps :
    ∃ sdp,
      exampleStart.run (List.replicate (2 ^ 32 - 2) .getSdp) = .ok sdp ∧
        sdp.getSdp.1.origin.sessionVersion = 2 ^ 32 - 1 ∧
        sdp.getSdp.2.getSdp.1.origin.sessionVersion = 0 := by
  obtain ⟨sdp, ran⟩ := run_replicate_getSdp exampleStart (2 ^ 32 - 2)
  have version := version_run (by decide) ran
  rw [List.count_replicate_self] at version
  refine ⟨sdp, ran, ?_, ?_⟩
  · rw [getSdp_version, version]
    decide
  · rw [getSdp_version, getSdp_stored, getSdp_version, version]
    decide

end RemoteSdp

end MediasoupClient.Sdp
