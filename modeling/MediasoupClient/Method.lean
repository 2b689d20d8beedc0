import MediasoupClient.RemoteSdp

namespace MediasoupClient

/-!
# Methods with exceptions

A method of an object is a function of its members that returns, throws an
exception, or reaches undefined behaviour.  An exception leaves the members
as they are at the throw.  `wp` is the weakest precondition of a method for
a property of the states it returns and throws in; its equations below
compute it through the code, statement by statement, and leave one `match`
or `if` per branch of the code, so that splitting them visits every way
out of the method with the conditions that lead there.
-/

/-- How a method call ends. -/
inductive Outcome (σ α : Type) where
  | returned (state : σ) (result : α)
  | threw (state : σ) (message : String)
  | undefined
  deriving Repr, DecidableEq

namespace Outcome

/-- The state the call leaves, unless its behaviour is undefined. -/
def state? : Outcome σ α → Option σ
  | .returned state _ => some state
  | .threw state _ => some state
  | .undefined => none

@[simp] theorem state?_threw (state : σ) (message : String) :
    (Outcome.threw state message : Outcome σ α).state? = some state :=
  rfl

end Outcome

/-- A method of an object whose members are `σ`. -/
def Method (σ α : Type) : Type := σ → Outcome σ α

namespace Method

/-- Return without touching the members. -/
def pure (result : α) : Method σ α := fun state => .returned state result

/-- Run `first`, then `next` on its result, stopping at a throw. -/
def bind (first : Method σ α) (next : α → Method σ β) : Method σ β :=
  fun state =>
    match first state with
    | .returned state result => next result state
    | .threw state message => .threw state message
    | .undefined => .undefined

instance : Monad (Method σ) where
  pure := pure
  bind := bind

/-- `MSC_THROW_ERROR` and `throw`: an exception with this message. -/
def throw (message : String) : Method σ α := fun state => .threw state message

/-- An operation whose behaviour is undefined. -/
def undefined : Method σ α := fun _ => .undefined

/-- Read the members. -/
def read : Method σ σ := fun state => .returned state state

/-- Write the members. -/
def modify (update : σ → σ) : Method σ Unit :=
  fun state => .returned (update state) ()

/-- An engine call: its reply's value, or the exception it throws. -/
def engine (reply : Except String α) : Method σ α := fun state =>
  match reply with
  | .ok value => .returned state value
  | .error message => .threw state message

/-- A value that may be missing; `otherwise` runs when it is. -/
def getOr (value : Option α) (otherwise : Method σ α) : Method σ α := fun state =>
  match value with
  | some value => .returned state value
  | none => otherwise state

/-- A remote SDP method's result: its value, an exception, or undefined behaviour. -/
def remote (result : Except Failure α) : Method σ α := fun state =>
  match result with
  | .ok value => .returned state value
  | .error (.thrown message) => .threw state message
  | .error .undefined => .undefined

/-- `try { body } catch (...) { undo; throw; }`. -/
def tryRethrow (body : Method σ α) (undo : σ → σ) : Method σ α := fun state =>
  match body state with
  | .threw state message => .threw (undo state) message
  | outcome => outcome

/-- Run a method of a part of the members. -/
def focus (part : σ → τ) (replace : σ → τ → σ) (method : Method τ α) :
    Method σ α := fun state =>
  match method (part state) with
  | .returned inner result => .returned (replace state inner) result
  | .threw inner message => .threw (replace state inner) message
  | .undefined => .undefined

/--
The weakest precondition: started in `state`, the method returns a result
and a state satisfying `normal`, or throws in a state satisfying
`exceptional`.  Undefined behaviour satisfies every property.
-/
def wp (method : Method σ α) (normal : α → σ → Prop)
    (exceptional : String → σ → Prop) (state : σ) : Prop :=
  match method state with
  | .returned after result => normal result after
  | .threw after message => exceptional message after
  | .undefined => True

section Calculus

variable {normal : β → σ → Prop} {exceptional : String → σ → Prop} {state : σ}

@[simp] theorem wp_pure (result : β) :
    wp (Pure.pure result : Method σ β) normal exceptional state =
      normal result state :=
  rfl

@[simp] theorem wp_bind (first : Method σ α) (next : α → Method σ β) :
    wp (first >>= next) normal exceptional state =
      wp first (fun result after => wp (next result) normal exceptional after)
        exceptional state := by
  show wp (bind first next) normal exceptional state = _
  unfold wp bind
  cases first state <;> rfl

@[simp] theorem wp_read {normal : σ → σ → Prop} :
    wp read normal exceptional state = normal state state :=
  rfl

@[simp] theorem wp_modify {normal : Unit → σ → Prop} (update : σ → σ) :
    wp (modify update) normal exceptional state = normal () (update state) :=
  rfl

@[simp] theorem wp_throw (message : String) :
    wp (throw message : Method σ β) normal exceptional state =
      exceptional message state :=
  rfl

@[simp] theorem wp_undefined : wp (undefined : Method σ β) normal exceptional state :=
  trivial

@[simp] theorem wp_engine (reply : Except String β) :
    wp (engine reply) normal exceptional state =
      match reply with
      | .ok value => normal value state
      | .error message => exceptional message state := by
  cases reply <;> rfl

@[simp] theorem wp_getOr (value : Option β) (otherwise : Method σ β) :
    wp (getOr value otherwise) normal exceptional state =
      match value with
      | some found => normal found state
      | none => wp otherwise normal exceptional state := by
  cases value <;> rfl

@[simp] theorem wp_remote (result : Except Failure β) :
    wp (remote result) normal exceptional state =
      match result with
      | .ok value => normal value state
      | .error (.thrown message) => exceptional message state
      | .error .undefined => True := by
  rcases result with (_ | _) | _ <;> rfl

@[simp] theorem wp_tryRethrow (body : Method σ β) (undo : σ → σ) :
    wp (tryRethrow body undo) normal exceptional state =
      wp body normal (fun message after => exceptional message (undo after)) state := by
  unfold wp tryRethrow
  cases body state <;> rfl

@[simp] theorem wp_focus {τ : Type} (part : σ → τ) (replace : σ → τ → σ)
    (method : Method τ β) :
    wp (focus part replace method) normal exceptional state =
      wp method (fun result inner => normal result (replace state inner))
        (fun message inner => exceptional message (replace state inner))
        (part state) := by
  unfold wp focus
  cases method (part state) <;> rfl

@[simp] theorem wp_ite (condition : Prop) [Decidable condition]
    (whenTrue whenFalse : Method σ β) :
    wp (if condition then whenTrue else whenFalse) normal exceptional state =
      if condition then wp whenTrue normal exceptional state
      else wp whenFalse normal exceptional state := by
  split <;> rfl

/-- A property of every state the method leaves holds of the one a call leaves. -/
theorem wp_state? {method : Method σ β} {property : σ → Prop} {after : σ}
    (holds : wp method (fun _ => property) (fun _ => property) state)
    (left : (method state).state? = some after) : property after := by
  unfold wp at holds
  revert holds left
  cases method state <;> simp only [Outcome.state?, Option.some.injEq,
    reduceCtorEq, false_implies, implies_true] <;> intro holds left <;>
    exact left ▸ holds

/-- A property of every result the method returns holds of a call that returns. -/
theorem wp_returned {method : Method σ β} {after : σ} {result : β}
    (holds : wp method normal exceptional state)
    (returned : method state = .returned after result) : normal result after := by
  unfold wp at holds
  rwa [returned] at holds

/-- A property of every state the method throws in holds of a call that throws. -/
theorem wp_threw {method : Method σ β} {after : σ} {message : String}
    (holds : wp method normal exceptional state)
    (threw : method state = .threw after message) : exceptional message after := by
  unfold wp at holds
  rwa [threw] at holds

/-- Weaken the properties a precondition promises. -/
theorem wp_mono {method : Method σ β} {normal' : β → σ → Prop}
    {exceptional' : String → σ → Prop}
    (normalWeaker : ∀ result after, normal result after → normal' result after)
    (exceptionalWeaker : ∀ message after,
      exceptional message after → exceptional' message after)
    (holds : wp method normal exceptional state) :
    wp method normal' exceptional' state := by
  unfold wp at holds ⊢
  revert holds
  cases method state
  · exact normalWeaker _ _
  · exact exceptionalWeaker _ _
  · exact id

/-- A focused method changes only its part: what holds whatever the part becomes holds after it. -/
theorem wp_focus_of_forall {τ : Type} {part : σ → τ} {replace : σ → τ → σ}
    {method : Method τ β} {property : σ → Prop}
    (holds : ∀ inner, property (replace state inner)) :
    wp (focus part replace method) (fun _ => property) (fun _ => property) state := by
  rw [wp_focus]
  unfold wp
  split
  · exact holds _
  · exact holds _
  · exact True.intro

end Calculus

/--
The weakest precondition of total correctness: as `wp`, and the behaviour
is defined.
-/
def wpTotal (method : Method σ α) (normal : α → σ → Prop)
    (exceptional : String → σ → Prop) (state : σ) : Prop :=
  match method state with
  | .returned after result => normal result after
  | .threw after message => exceptional message after
  | .undefined => False

section TotalCalculus

variable {normal : β → σ → Prop} {exceptional : String → σ → Prop} {state : σ}

@[simp] theorem wpTotal_pure (result : β) :
    wpTotal (Pure.pure result : Method σ β) normal exceptional state =
      normal result state :=
  rfl

@[simp] theorem wpTotal_bind (first : Method σ α) (next : α → Method σ β) :
    wpTotal (first >>= next) normal exceptional state =
      wpTotal first (fun result after => wpTotal (next result) normal exceptional after)
        exceptional state := by
  show wpTotal (bind first next) normal exceptional state = _
  unfold wpTotal bind
  cases first state <;> rfl

@[simp] theorem wpTotal_read {normal : σ → σ → Prop} :
    wpTotal read normal exceptional state = normal state state :=
  rfl

@[simp] theorem wpTotal_modify {normal : Unit → σ → Prop} (update : σ → σ) :
    wpTotal (modify update) normal exceptional state = normal () (update state) :=
  rfl

@[simp] theorem wpTotal_throw (message : String) :
    wpTotal (throw message : Method σ β) normal exceptional state =
      exceptional message state :=
  rfl

@[simp] theorem wpTotal_undefined :
    wpTotal (undefined : Method σ β) normal exceptional state = False :=
  rfl

@[simp] theorem wpTotal_engine (reply : Except String β) :
    wpTotal (engine reply) normal exceptional state =
      match reply with
      | .ok value => normal value state
      | .error message => exceptional message state := by
  cases reply <;> rfl

@[simp] theorem wpTotal_getOr (value : Option β) (otherwise : Method σ β) :
    wpTotal (getOr value otherwise) normal exceptional state =
      match value with
      | some found => normal found state
      | none => wpTotal otherwise normal exceptional state := by
  cases value <;> rfl

@[simp] theorem wpTotal_remote (result : Except Failure β) :
    wpTotal (remote result) normal exceptional state =
      match result with
      | .ok value => normal value state
      | .error (.thrown message) => exceptional message state
      | .error .undefined => False := by
  rcases result with (_ | _) | _ <;> rfl

@[simp] theorem wpTotal_focus {τ : Type} (part : σ → τ) (replace : σ → τ → σ)
    (method : Method τ β) :
    wpTotal (focus part replace method) normal exceptional state =
      wpTotal method (fun result inner => normal result (replace state inner))
        (fun message inner => exceptional message (replace state inner))
        (part state) := by
  unfold wpTotal focus
  cases method (part state) <;> rfl

@[simp] theorem wpTotal_ite (condition : Prop) [Decidable condition]
    (whenTrue whenFalse : Method σ β) :
    wpTotal (if condition then whenTrue else whenFalse) normal exceptional state =
      if condition then wpTotal whenTrue normal exceptional state
      else wpTotal whenFalse normal exceptional state := by
  split <;> rfl

/-- Total correctness is partial correctness of a call whose behaviour is defined. -/
theorem wpTotal_iff {method : Method σ β} :
    wpTotal method normal exceptional state ↔
      wp method normal exceptional state ∧ method state ≠ .undefined := by
  unfold wpTotal wp
  cases method state <;> simp

/-- A call that is totally correct for some properties is defined. -/
theorem ne_undefined_of_wpTotal {method : Method σ β}
    (holds : wpTotal method normal exceptional state) : method state ≠ .undefined :=
  (wpTotal_iff.mp holds).2

end TotalCalculus

end Method

end MediasoupClient
