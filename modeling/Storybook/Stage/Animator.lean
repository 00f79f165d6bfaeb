/-
**Motions.**

A motion changes one sprite a little in every frame. The variants change different things: gravity
the height of the place, drift its other coordinate, spin the rotation and fade the alpha. A motion
is finished when its sprite is gone or has faded away.

* `Motion.step`: one frame of one motion;
* `Animator.register`, `Animator.reserve`, `Animator.deregister`: the registered motions;
* `Animator.tick`: one frame of all of them, in the order of registration.
-/

import Storybook.Stage.Stage

namespace Storybook

/-- A lasting change of a sprite. -/
inductive Motion
  /-- Falls with growing velocity, down to the floor. -/
  | gravity (sprite : SpriteId) (strength velocity : Single)
  | drift (sprite : SpriteId) (velocity : Single)
  | spin (sprite : SpriteId) (speed : Single)
  | fade (sprite : SpriteId) (speed : Single)
deriving DecidableEq, Repr

/-- What the motions of a kind are called. -/
inductive MotionKind
  | gravity
  | drift
  | spin
  | fade
deriving DecidableEq, Repr

/-- The name of a kind of motions. -/
def MotionKind.name : MotionKind → String
  | gravity => "gravity"
  | drift => "move"
  | spin => "spin"
  | fade => "fade_out"

namespace Motion

/-- The sprite that a motion changes. -/
def sprite : Motion → SpriteId
  | gravity sprite _ _ => sprite
  | drift sprite _ => sprite
  | spin sprite _ => sprite
  | fade sprite _ => sprite

/-- The kind of a motion. -/
def kind : Motion → MotionKind
  | gravity _ _ _ => .gravity
  | drift _ _ => .drift
  | spin _ _ => .spin
  | fade _ _ => .fade

/-- A motion after a frame, with the stage that it leaves. -/
structure Outcome where
  motion : Motion
  stage : Stage
  finished : Bool

/-- A fall: the new velocity and height of a sprite over a floor. On the floor it comes to rest. -/
def fall (strength velocity delta : Single) (floor height : Single) : Single × Single :=
  let velocity := velocity + strength * delta
  let height := height + velocity * delta
  if floor < height then (0, floor) else (velocity, height)

/-- One frame of a motion, `delta` frames long. -/
def step (motion : Motion) (stage : Stage) (delta : Single) : Outcome :=
  match stage.find? motion.sprite with
  | none => ⟨motion, stage, true⟩
  | some sprite =>
    match motion with
    | gravity id strength velocity =>
      let floor := stage.viewport.height - sprite.height
      let (velocity, height) := fall strength velocity delta floor sprite.place.y
      let stage := stage.modify id fun sprite =>
        { sprite with place := ⟨sprite.place.x, height⟩ }
      ⟨gravity id strength velocity, stage, false⟩
    | drift id velocity =>
      let stage := stage.modify id fun sprite =>
        { sprite with place := ⟨sprite.place.x + velocity * delta, sprite.place.y⟩ }
      ⟨motion, stage, false⟩
    | spin id speed =>
      let stage := stage.modify id fun sprite =>
        { sprite with rotation := sprite.rotation + speed * delta }
      ⟨motion, stage, false⟩
    | fade id speed =>
      let alpha := sprite.alpha - speed * delta
      if 0 < alpha then
        ⟨motion, stage.modify id fun sprite => { sprite with alpha }, false⟩
      else
        let (_, stage) := (stage.modify id fun sprite => { sprite with alpha := 0 }).detach id
        ⟨motion, stage, true⟩

end Motion

/-- The handle of a registered motion. -/
structure TickId where
  number : Nat
deriving DecidableEq, Repr

/-- The registered motions, in the order of registration. -/
structure Animator where
  /-- How many handles have been given out. -/
  issued : Nat
  entries : List (TickId × Motion)
deriving DecidableEq, Repr

namespace Animator

/-- No motions. -/
def empty : Animator :=
  ⟨0, []⟩

/-- Gives out a handle under which a motion may be registered later. -/
def reserve (animator : Animator) : TickId × Animator :=
  (⟨animator.issued + 1⟩, { animator with issued := animator.issued + 1 })

/-- The motion that is registered under a handle. -/
def find? (animator : Animator) (id : TickId) : Option Motion :=
  animator.entries.lookup id

/-- Whether a motion is registered under a handle. -/
def isRegistered (animator : Animator) (id : TickId) : Bool :=
  animator.entries.any fun (other, _) => other = id

/-- Registers a motion under a handle that was given out before, unless one is registered there. Answers
whether it is registered. -/
def registerReserved (animator : Animator) (id : TickId) (motion : Motion) : Bool × Animator :=
  if animator.isRegistered id then
    (false, animator)
  else
    (true, { animator with entries := animator.entries ++ [(id, motion)] })

/-- Registers a motion under a new handle. -/
def register (animator : Animator) (motion : Motion) : TickId × Animator :=
  let (id, animator) := animator.reserve
  (id, { animator with entries := animator.entries ++ [(id, motion)] })

/-- Takes out the motion under a handle. Answers it, if there was one. -/
def deregister (animator : Animator) (id : TickId) : Option Motion × Animator :=
  let entries := animator.entries.filter fun (other, _) => other ≠ id
  (animator.find? id, { animator with entries })

/-- How many motions are registered. -/
def size (animator : Animator) : Nat :=
  animator.entries.length

/-- What a frame leaves: the stage, and the motions that go on and that are finished. -/
structure Frame where
  stage : Stage
  running : List (TickId × Motion)
  finished : List (TickId × Motion)

/-- Steps every motion once, each on the stage that the one before leaves. -/
def steps (delta : Single) : List (TickId × Motion) → Stage → Frame
  | [], stage => ⟨stage, [], []⟩
  | (id, motion) :: rest, stage =>
    let outcome := motion.step stage delta
    let frame := steps delta rest outcome.stage
    if outcome.finished then
      { frame with finished := (id, outcome.motion) :: frame.finished }
    else
      { frame with running := (id, outcome.motion) :: frame.running }

/-- One frame of all motions. Answers the finished ones, in the order of registration. -/
def tick (animator : Animator) (stage : Stage) (delta : Single) :
    List (TickId × Motion) × Animator × Stage :=
  let frame := steps delta animator.entries stage
  (frame.finished, { animator with entries := frame.running }, frame.stage)

end Animator

end Storybook
