import MediasoupClient.RecvHandler

namespace MediasoupClient

/-!
# The spatial layers `SetMaxSpatialLayer` leaves active

`SetMaxSpatialLayer` reads the sender's encodings, takes the first three as
the low, medium and high layer, and for the layer `1`, `2` or `3` sets
active exactly those below it: `1` the low one, `2` the low and medium ones,
`3` all three.  Encodings past the third keep their flag, and any other
layer value edits nothing.  The edited parameters are written back by
`SetParameters`, so a call that throws leaves the flags as they were.

Since the flags a layer `1`, `2` or `3` writes do not depend on the old
ones, of two calls for one localId the second decides the flags: a call
with such a layer after any other returns the state it returns alone.
-/

/--
The flag the source's three branches give an encoding: of the first three,
active exactly when below the layer `1`, `2` or `3`; otherwise as it was.
-/
def activeBelowLayer (spatialLayer : UInt8) (idx : Nat) (active : Bool) : Bool :=
  if idx < 3 ∧ (spatialLayer = 1 ∨ spatialLayer = 2 ∨ spatialLayer = 3) then
    decide (idx < spatialLayer.toNat)
  else active

/-- A layer `1`, `2` or `3` overrides the flag any earlier edit left. -/
theorem activeBelowLayer_override {earlier later : UInt8}
    (layer : later = 1 ∨ later = 2 ∨ later = 3) (idx : Nat) (active : Bool) :
    activeBelowLayer later idx (activeBelowLayer earlier idx active) =
      activeBelowLayer later idx active := by
  by_cases low : idx < 3
  · simp only [activeBelowLayer, low, layer, and_self, ↓reduceIte]
  · simp only [activeBelowLayer, low, false_and, ↓reduceIte]

/-- `spatialLayerActive` is the source's three branches, encoding by encoding. -/
theorem getElem?_spatialLayerActive (spatialLayer : UInt8) (encodingsActive : List Bool)
    (idx : Nat) :
    (spatialLayerActive spatialLayer encodingsActive)[idx]? =
      encodingsActive[idx]?.map (activeBelowLayer spatialLayer idx) := by
  simp only [spatialLayerActive, List.getElem?_map, List.getElem?_enum, Option.map_map]
  congr 1
  funext active
  simp only [Function.comp_apply, activeBelowLayer]
  by_cases high : 2 < idx
  · simp [high, show ¬ idx < 3 by omega]
  · have low : idx < 3 := by omega
    rcases (show idx = 0 ∨ idx = 1 ∨ idx = 2 by omega) with rfl | rfl | rfl <;>
      by_cases one : spatialLayer = 1 <;> by_cases two : spatialLayer = 2 <;>
      by_cases three : spatialLayer = 3 <;> simp_all <;> decide

example : spatialLayerActive 2 [false, false, true, false] = [true, true, false, false] := by
  decide

/-- A layer `1`, `2` or `3` decides every flag it writes, whatever came before. -/
theorem spatialLayerActive_override {earlier later : UInt8}
    (layer : later = 1 ∨ later = 2 ∨ later = 3) (encodingsActive : List Bool) :
    spatialLayerActive later (spatialLayerActive earlier encodingsActive) =
      spatialLayerActive later encodingsActive := by
  apply List.ext_getElem?
  intro idx
  simp only [getElem?_spatialLayerActive, Option.map_map]
  congr 1
  funext active
  exact activeBelowLayer_override layer idx active

/-- Any other layer value edits no flag. -/
theorem spatialLayerActive_other {spatialLayer : UInt8}
    (other : ¬ (spatialLayer = 1 ∨ spatialLayer = 2 ∨ spatialLayer = 3))
    (encodingsActive : List Bool) :
    spatialLayerActive spatialLayer encodingsActive = encodingsActive := by
  apply List.ext_getElem?
  intro idx
  rw [getElem?_spatialLayerActive]
  cases encodingsActive[idx]? with
  | none => rfl
  | some active => simp [activeBelowLayer, other]

namespace SendHandler

/-- The state a returning `SetMaxSpatialLayer` leaves: the named transceiver's flags edited. -/
def withSpatialLayer (transceiver : Nat) (spatialLayer : UInt8) (handler : SendHandler) :
    SendHandler :=
  { handler with
    toHandler :=
      { handler.toHandler with
        transceivers := handler.transceivers.modify
          (fun current =>
            { current with
              encodingsActive := spatialLayerActive spatialLayer current.encodingsActive })
          transceiver } }

/-- How `SetMaxSpatialLayer` ends: without an entry it throws, and else as `SetParameters`. -/
theorem setMaxSpatialLayer_eq (localId : String) (spatialLayer : UInt8) (engine : Engine)
    (handler : SendHandler) :
    setMaxSpatialLayer localId spatialLayer engine handler =
      match handler.mapMidTransceiver.find? localId with
      | none => .threw handler transceiverNotFound
      | some transceiver =>
          match engine.setParameters with
          | .ok () => .returned (withSpatialLayer transceiver spatialLayer handler) ()
          | .error message => .threw handler message := by
  cases found : handler.mapMidTransceiver.find? localId <;>
    cases replied : engine.setParameters <;>
    simp only [setMaxSpatialLayer, lift, Method.focus, Handler.findTransceiver,
      Handler.updateTransceiver, bind, Method.bind, Method.read, Method.getOr, Method.throw,
      Method.engine, Method.modify, withSpatialLayer, found, replied]

/-- Two edits of one transceiver's flags, the second with a layer `1`, `2` or `3`, are the second. -/
theorem withSpatialLayer_override {earlier later : UInt8}
    (layer : later = 1 ∨ later = 2 ∨ later = 3) (transceiver : Nat) (handler : SendHandler) :
    withSpatialLayer transceiver later (withSpatialLayer transceiver earlier handler) =
      withSpatialLayer transceiver later handler := by
  simp only [withSpatialLayer, List.modify_modify_eq, Function.comp_def,
    spatialLayerActive_override layer]

/-- An edit with any other layer value leaves the handler as it is. -/
theorem withSpatialLayer_other {spatialLayer : UInt8}
    (other : ¬ (spatialLayer = 1 ∨ spatialLayer = 2 ∨ spatialLayer = 3)) (transceiver : Nat)
    (handler : SendHandler) : withSpatialLayer transceiver spatialLayer handler = handler := by
  have unchanged : handler.transceivers.modify
      (fun current =>
        { current with
          encodingsActive := spatialLayerActive spatialLayer current.encodingsActive })
      transceiver = handler.transceivers := by
    apply List.ext_getElem?
    intro idx
    rw [List.getElem?_modify]
    cases handler.transceivers[idx]? <;> simp [spatialLayerActive_other other]
  simp only [withSpatialLayer, unchanged]

/-- The edit changes the named transceiver's flags one by one, and no other transceiver. -/
theorem getElem?_withSpatialLayer (transceiver : Nat) (spatialLayer : UInt8)
    (handler : SendHandler) (idx : Nat) :
    (withSpatialLayer transceiver spatialLayer handler).transceivers[idx]? =
      if idx = transceiver then
        handler.transceivers[idx]?.map fun current =>
          { current with
            encodingsActive := current.encodingsActive.enum.map fun entry =>
              activeBelowLayer spatialLayer entry.1 entry.2 }
      else handler.transceivers[idx]? := by
  have perFlag : ∀ flags : List Bool, spatialLayerActive spatialLayer flags =
      flags.enum.map fun entry => activeBelowLayer spatialLayer entry.1 entry.2 := by
    intro flags
    apply List.ext_getElem?
    intro position
    simp only [getElem?_spatialLayerActive, List.getElem?_map, List.getElem?_enum,
      Option.map_map, Function.comp_def]
  simp only [withSpatialLayer, List.getElem?_modify, perFlag]
  by_cases same : idx = transceiver
  · subst same
    simp
  · simp [same, Ne.symm same]

end SendHandler

/--
Every `SetMaxSpatialLayer` that returns edits only the flags of the
transceiver its localId names: each flag becomes `activeBelowLayer` of the
layer (of the first three encodings, active exactly when below a layer
`1`, `2` or `3`; every other flag as it was), and every other transceiver
and member stays.  Of two calls for one localId that both return, the
second decides: with the layer `1`, `2` or `3` it returns alone, from the
first's starting state, the state the two leave, and with any other layer
it changes nothing.
-/
theorem set_max_spatial_layer_second_call_decides {localId : String} {earlier later : UInt8}
    {engine engine' : Engine} {handler middle after : SendHandler}
    (first : SendHandler.setMaxSpatialLayer localId earlier engine handler = .returned middle ())
    (second : SendHandler.setMaxSpatialLayer localId later engine' middle = .returned after ()) :
    (∃ transceiver, handler.mapMidTransceiver.find? localId = some transceiver ∧
      middle = { handler with
        toHandler := { handler.toHandler with transceivers := middle.transceivers } } ∧
      ∀ idx, middle.transceivers[idx]? =
        if idx = transceiver then
          handler.transceivers[idx]?.map fun current =>
            { current with
              encodingsActive := current.encodingsActive.enum.map fun entry =>
                activeBelowLayer earlier entry.1 entry.2 }
        else handler.transceivers[idx]?) ∧
      ((later = 1 ∨ later = 2 ∨ later = 3) →
        SendHandler.setMaxSpatialLayer localId later engine' handler = .returned after ()) ∧
      (¬ (later = 1 ∨ later = 2 ∨ later = 3) → after = middle) := by
  rw [SendHandler.setMaxSpatialLayer_eq] at first second
  cases found : handler.mapMidTransceiver.find? localId with
  | none => simp only [found, reduceCtorEq] at first
  | some transceiver =>
    cases replied : engine.setParameters <;> simp only [found, replied, reduceCtorEq,
      Outcome.returned.injEq, and_true] at first
    subst middle
    have foundAgain : (SendHandler.withSpatialLayer transceiver earlier
        handler).mapMidTransceiver.find? localId = some transceiver := found
    cases repliedAgain : engine'.setParameters <;> simp only [foundAgain, repliedAgain,
      reduceCtorEq, Outcome.returned.injEq, and_true] at second
    subst after
    refine ⟨⟨transceiver, rfl, rfl, SendHandler.getElem?_withSpatialLayer transceiver earlier handler⟩,
      fun layer => ?_, fun other => SendHandler.withSpatialLayer_other other _ _⟩
    rw [SendHandler.setMaxSpatialLayer_eq, found, repliedAgain,
      SendHandler.withSpatialLayer_override layer]

/-- A send handler whose localId `0` names a transceiver with four active encodings. -/
def exampleLayeredSendHandler : SendHandler :=
  { exampleSendHandler with
    toHandler :=
      { exampleHandler with
        transceivers := [{ mid := some "0", direction := .sendOnly, track := some "a"
                           encodingsActive := [true, true, true, true] }]
        mapMidTransceiver := StringMap.empty.assign "0" 0 } }

theorem set_max_spatial_layer_second_call_decides_of_three_then_one :
    ∃ middle after,
      SendHandler.setMaxSpatialLayer "0" 3 (exampleEngine "0" ["0"])
          exampleLayeredSendHandler = .returned middle () ∧
        SendHandler.setMaxSpatialLayer "0" 1 (exampleEngine "0" ["0"]) middle =
          .returned after () ∧
        SendHandler.setMaxSpatialLayer "0" 1 (exampleEngine "0" ["0"])
          exampleLayeredSendHandler = .returned after () :=
  have first : SendHandler.setMaxSpatialLayer "0" 3 (exampleEngine "0" ["0"])
      exampleLayeredSendHandler =
        .returned (SendHandler.withSpatialLayer 0 3 exampleLayeredSendHandler) () := rfl
  have second : SendHandler.setMaxSpatialLayer "0" 1 (exampleEngine "0" ["0"])
      (SendHandler.withSpatialLayer 0 3 exampleLayeredSendHandler) = .returned _ () := rfl
  ⟨_, _, first, second,
    (set_max_spatial_layer_second_call_decides first second).2.1 (.inl rfl)⟩

end MediasoupClient
