import MediasoupClient.HandlerSections

namespace MediasoupClient

open Sdp Sdp.RemoteSdp

/-!
# The localIds of the receive handler

`Receive` takes the caller's mid as its localId, or else the decimal
numeral of the number of entries of `mapMidTransceiver`.  A numeral can be
a mid a caller supplied before, and a `Receive` that throws after offering
its section leaves that section behind while the count stays, so the next
numeral is that section's mid.  With supplied mids that are distinct, none
`datachannel`, and none a numeral when some `Receive` of the run supplies
no mid, no localId is ever an entry already; in a run where no call throws,
no localId is a section's mid either and the section mids stay distinct.
-/

/-- No numeral is `datachannel`. -/
theorem natToString_ne_dataChannel (n : Nat) : toString n ≠ "datachannel" :=
  natToString_ne (by decide) n

namespace RecvHandler

/-! ## The supplied mids -/

/-- The mid a call supplies: `Receive`'s `rtpParameters.mid` when it is not empty. -/
def callerMid : Operation → Option String
  | .receive _ _ rtpParameters =>
      match rtpParameters.mid with
      | some mid => if mid = "" then none else some mid
      | none => none
  | _ => none

/-- Whether a call is a `Receive` that supplies no mid, so takes the numeral of the count. -/
def synthesizesLocalId (operation : Operation) : Bool :=
  match operation with
  | .receive .. => (callerMid operation).isNone
  | _ => false

/--
The supplied mids are distinct and none is `datachannel`; when some call
synthesizes its localId, none is a decimal numeral either.
-/
structure SuppliedMidsFresh (supplied : List String) (synthesized : Bool) : Prop where
  nodup : supplied.Nodup
  notDataChannel : ∀ mid ∈ supplied, mid ≠ "datachannel"
  notNumeral : synthesized = true → ∀ mid ∈ supplied, ∀ n : Nat, toString n ≠ mid

/-- The last supplied mid is new and not `datachannel`. -/
theorem SuppliedMidsFresh.last {supplied : List String} {synthesized : Bool} {mid : String}
    (fresh : SuppliedMidsFresh (supplied ++ [mid]) synthesized) :
    mid ∉ supplied ∧ mid ≠ "datachannel" :=
  ⟨fun member => (List.nodup_append.mp fresh.nodup).2.2 member (List.mem_singleton_self _),
    fresh.notDataChannel mid (List.mem_append_right _ (List.mem_singleton_self _))⟩

/-- `Receive`'s localId is the mid the call supplies, or else the numeral of the count. -/
theorem receiveLocalId_eq (id kind : String) (rtpParameters : RtpParameters)
    (mapMidTransceiver : StringMap Nat) :
    receiveLocalId rtpParameters mapMidTransceiver =
      (callerMid (.receive id kind rtpParameters)).getD (toString mapMidTransceiver.size) := by
  unfold receiveLocalId
  cases supplied : rtpParameters.mid with
  | none => simp [callerMid, supplied]
  | some mid => by_cases empty : mid = "" <;> simp [callerMid, supplied, empty]

/-- With fresh supplied mids, `Receive`'s localId is never `datachannel`. -/
theorem receiveLocalId_ne_dataChannel {supplied : List String} {synthesized : Bool}
    {id kind : String} {rtpParameters : RtpParameters}
    (fresh : SuppliedMidsFresh (supplied ++ (callerMid (.receive id kind rtpParameters)).toList)
      synthesized)
    (mapMidTransceiver : StringMap Nat) :
    receiveLocalId rtpParameters mapMidTransceiver ≠ "datachannel" := by
  rw [receiveLocalId_eq id kind]
  cases supplies : callerMid (.receive id kind rtpParameters) with
  | some mid =>
      rw [supplies, Option.toList_some] at fresh
      exact fresh.last.2
  | none => exact natToString_ne_dataChannel _

/-- Each entry names a transceiver whose mid is the localId, and the section with that mid. -/
def EntriesNameSections (handler : Handler) : Prop :=
  ∀ localId transceiver, handler.mapMidTransceiver.find? localId = some transceiver →
    handler.transceivers[transceiver]?.bind Transceiver.mid = some localId ∧
      localId ∈ sectionMids handler.remoteSdp.mediaSections

/--
Every entry names its section, and its localId was supplied or, once some
call has synthesized its localId, is a numeral below the count.
-/
structure LocalIdsKnown (supplied : List String) (synthesized : Bool) (handler : Handler) :
    Prop where
  named : EntriesNameSections handler
  origin : ∀ localId transceiver,
    handler.mapMidTransceiver.find? localId = some transceiver →
      localId ∈ supplied ∨
        synthesized = true ∧ ∃ n < handler.mapMidTransceiver.size, toString n = localId

/-- In a run with no failure: distinct section mids, each a localId's or the data section's. -/
structure SectionsDistinct (handler : Handler) : Prop where
  nodup : (sectionMids handler.remoteSdp.mediaSections).Nodup
  mapped : ∀ mid ∈ sectionMids handler.remoteSdp.mediaSections,
    mid = "datachannel" ∨ handler.mapMidTransceiver.find? mid ≠ none
  dataChannel : handler.hasDataChannelMediaSection = false →
    "datachannel" ∉ sectionMids handler.remoteSdp.mediaSections

/-- A transceiver keeps its index when transceivers are appended. -/
theorem getElem?_of_grown {before after : List Transceiver} (grown : before <+: after)
    {idx : Nat} {transceiver : Transceiver} (found : before[idx]? = some transceiver) :
    after[idx]? = some transceiver := by
  obtain ⟨rest, rfl⟩ := grown
  rw [List.getElem?_append_left (List.getElem?_eq_some_iff.mp found).1, found]

/-- The supplied mid or the numeral `Receive` takes is no entry yet. -/
theorem receiveLocalId_fresh {supplied : List String} {synthesized : Bool} {handler : Handler}
    (known : LocalIdsKnown supplied synthesized handler) {id kind : String}
    {rtpParameters : RtpParameters}
    (fresh : SuppliedMidsFresh (supplied ++ (callerMid (.receive id kind rtpParameters)).toList)
      (synthesized || synthesizesLocalId (.receive id kind rtpParameters))) :
    handler.mapMidTransceiver.find? (receiveLocalId rtpParameters handler.mapMidTransceiver) =
      none := by
  rw [receiveLocalId_eq id kind]
  refine Option.eq_none_iff_forall_not_mem.mpr fun transceiver found => ?_
  cases supplies : callerMid (.receive id kind rtpParameters) with
  | some mid =>
      rw [supplies, Option.toList_some] at fresh
      rw [supplies, Option.getD_some] at found
      rcases known.origin mid transceiver found with member | ⟨synthesized, n, _, numeral⟩
      · exact fresh.last.1 member
      · exact fresh.notNumeral (by simp [synthesized]) mid
          (List.mem_append_right _ (List.mem_singleton_self _)) n numeral
  | none =>
      rw [supplies, Option.getD_none] at found
      rcases known.origin _ transceiver found with member | ⟨-, n, below, numeral⟩
      · exact fresh.notNumeral (by simp [synthesizesLocalId, supplies]) _
          (List.mem_append_left _ member) _ rfl
      · exact absurd (natToString_injective numeral) (Nat.ne_of_lt below)

/-- An entry still names its transceiver and section once both lists have grown. -/
theorem named_of_grown {handler after : Handler}
    (grown : handler.transceivers <+: after.transceivers)
    (kept : ∀ mid ∈ sectionMids handler.remoteSdp.mediaSections,
      mid ∈ sectionMids after.remoteSdp.mediaSections)
    {localId : String} {transceiver : Nat}
    (named : handler.transceivers[transceiver]?.bind Transceiver.mid = some localId ∧
      localId ∈ sectionMids handler.remoteSdp.mediaSections) :
    after.transceivers[transceiver]?.bind Transceiver.mid = some localId ∧
      localId ∈ sectionMids after.remoteSdp.mediaSections := by
  obtain ⟨current, atIdx, hasMid⟩ := Option.bind_eq_some.mp named.1
  exact ⟨Option.bind_eq_some.mpr ⟨current, getElem?_of_grown grown atIdx, hasMid⟩,
    kept _ named.2⟩

/-- A call that keeps the entries and only adds transceivers and sections keeps them known. -/
theorem LocalIdsKnown.of_grown {supplied : List String} {synthesized : Bool}
    (more : List String) (again : Bool) {handler after : Handler}
    (known : LocalIdsKnown supplied synthesized handler)
    (sameEntries : after.mapMidTransceiver = handler.mapMidTransceiver)
    (grown : handler.transceivers <+: after.transceivers)
    (kept : ∀ mid ∈ sectionMids handler.remoteSdp.mediaSections,
      mid ∈ sectionMids after.remoteSdp.mediaSections) :
    LocalIdsKnown (supplied ++ more) (synthesized || again) after := by
  refine ⟨fun localId transceiver found => ?_, fun localId transceiver found => ?_⟩
  · rw [sameEntries] at found
    exact named_of_grown grown kept (known.named localId transceiver found)
  · rw [sameEntries] at found ⊢
    rcases known.origin localId transceiver found with member | ⟨synthesized, numeral⟩
    · exact .inl (List.mem_append_left _ member)
    · exact .inr ⟨by simp [synthesized], numeral⟩

/-- A `Receive` that returns keeps the localIds known, its own included. -/
theorem LocalIdsKnown.receive {supplied : List String} {synthesized : Bool}
    {handler after : Handler} (known : LocalIdsKnown supplied synthesized handler)
    {id kind : String} {rtpParameters : RtpParameters}
    (absent : handler.mapMidTransceiver.find?
      (receiveLocalId rtpParameters handler.mapMidTransceiver) = none)
    (adds : ReceiveAdds handler after (receiveLocalId rtpParameters handler.mapMidTransceiver)) :
    LocalIdsKnown (supplied ++ (callerMid (.receive id kind rtpParameters)).toList)
      (synthesized || synthesizesLocalId (.receive id kind rtpParameters)) after := by
  obtain ⟨grown, transceiver, entries, named, appended, _⟩ := adds
  have kept : ∀ mid ∈ sectionMids handler.remoteSdp.mediaSections,
      mid ∈ sectionMids after.remoteSdp.mediaSections :=
    fun mid member => appended ▸ List.mem_append_left _ member
  have grownSize : after.mapMidTransceiver.size = handler.mapMidTransceiver.size + 1 := by
    rw [entries, StringMap.size_assign_of_find?_eq_none _ absent]
  refine ⟨fun key index found => ?_, fun key index found => ?_⟩
  · rw [entries, StringMap.find?_assign] at found
    split_ifs at found with isNew
    · cases found
      exact ⟨isNew ▸ named,
        isNew ▸ appended ▸ List.mem_append_right _ (List.mem_singleton_self _)⟩
    · exact named_of_grown grown kept (known.named key index found)
  · rw [entries, StringMap.find?_assign] at found
    rw [grownSize]
    split_ifs at found with isNew
    · rw [isNew, receiveLocalId_eq id kind]
      cases supplies : callerMid (.receive id kind rtpParameters) with
      | some mid => exact .inl (by simp)
      | none =>
          exact .inr ⟨by simp [synthesizesLocalId, supplies], _, Nat.lt_succ_self _, rfl⟩
    · rcases known.origin key index found with member | ⟨synthesized, n, below, numeral⟩
      · exact .inl (List.mem_append_left _ member)
      · exact .inr ⟨by simp [synthesized], n, Nat.lt_succ_of_lt below, numeral⟩

/-- Appending a mid that is not there keeps a list of mids distinct. -/
theorem nodup_append_new {mids : List String} {mid : String} (distinct : mids.Nodup)
    (notMember : mid ∉ mids) : (mids ++ [mid]).Nodup :=
  List.nodup_append.mpr ⟨distinct, List.nodup_singleton _,
    fun _ member single => notMember (List.eq_of_mem_singleton single ▸ member)⟩

/-- A call that returns keeps the sections distinct, while the localIds are known. -/
theorem SectionsDistinct.returned {supplied : List String} {synthesized : Bool}
    {handler after : Handler} {operation : Operation} (distinct : SectionsDistinct handler)
    (known : LocalIdsKnown supplied synthesized handler)
    (fresh : SuppliedMidsFresh (supplied ++ (callerMid operation).toList)
      (synthesized || synthesizesLocalId operation))
    (effect : CallEffect handler after operation) :
    SectionsDistinct after := by
  cases operation with
  | receive =>
      have absent := receiveLocalId_fresh known fresh
      have notDataChannel := receiveLocalId_ne_dataChannel fresh handler.mapMidTransceiver
      obtain ⟨_, transceiver, entries, _, appended, sameFlag⟩ := effect
      have notMember := fun member =>
        (distinct.mapped _ member).elim notDataChannel (· absent)
      refine ⟨appended ▸ nodup_append_new distinct.nodup notMember, fun mid member => ?_, ?_⟩
      · rw [appended, List.mem_append, List.mem_singleton] at member
        rw [entries, StringMap.find?_assign]
        split_ifs with isNew
        · exact .inr (Option.some_ne_none _)
        · exact member.elim (distinct.mapped mid) (absurd · isNew)
      · rw [sameFlag, appended, List.mem_append, List.mem_singleton, not_or]
        exact fun noFlag => ⟨distinct.dataChannel noFlag, Ne.symm notDataChannel⟩
  | receiveDataChannel =>
      obtain ⟨sameEntries, _, flagOn, appended⟩ := effect
      have flagged : after.hasDataChannelMediaSection = false →
          "datachannel" ∉ sectionMids after.remoteSdp.mediaSections := by
        simp [flagOn]
      cases hadFlag : handler.hasDataChannelMediaSection
      · rw [hadFlag, if_neg Bool.false_ne_true] at appended
        refine ⟨appended ▸ nodup_append_new distinct.nodup (distinct.dataChannel hadFlag),
          fun mid member => ?_, flagged⟩
        rw [appended, List.mem_append, List.mem_singleton] at member
        rw [sameEntries]
        exact member.elim (distinct.mapped mid) .inl
      · rw [hadFlag, if_pos rfl, List.append_nil] at appended
        exact ⟨appended ▸ distinct.nodup,
          fun mid member => sameEntries ▸ distinct.mapped mid (appended ▸ member), flagged⟩
  | stopReceiving | getReceiverStats | restartIce =>
      obtain ⟨sameEntries, _, sameFlag, same⟩ := effect
      exact ⟨same ▸ distinct.nodup,
        fun mid member => sameEntries ▸ distinct.mapped mid (same ▸ member),
        fun noFlag => same ▸ distinct.dataChannel (sameFlag ▸ noFlag)⟩

end RecvHandler

end MediasoupClient
