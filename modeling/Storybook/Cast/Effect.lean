/-
**Effects.**

An effect that is bound to a sprite may run any number of times, and it may be called off, which
takes back what it has put into the timers and the motions.

* An audio effect starts its sound over.
* A move starts once, after its pause, and goes on until it is called off.
* A bounce lifts the sprite, a transition changes its picture, each at once.
* A fade runs once; when it has come to its end, it never runs again.
* A spin turns on and off, and the sprite stands upright whenever it turns off.

Main definitions: `Effect.execute`, `Effect.cancel`, and `Effect.build`, which makes an effect of
what a story says.
-/

import Storybook.Play.World

namespace Storybook

/-! ### States -/

/-- The state of a move. -/
inductive MoveState
  | idle
  /-- Its timer has not been due yet. -/
  | pending (timer : TimerId) (tick : TickId)
  | moving (tick : TickId)
deriving DecidableEq, Repr

/-- The state of a fade. -/
inductive FadeState
  | idle
  | fading (tick : TickId)
  | done
deriving DecidableEq, Repr

/-- The state of a spin. -/
inductive SpinState
  | idle
  | active (tick : TickId)
deriving DecidableEq, Repr

/-- An effect that is bound to a sprite. -/
inductive Effect
  | audio (sound : String)
  /-- The pause is in nanoseconds. -/
  | move (sprite : SpriteId) (velocity : Single) (pause : Nat) (state : MoveState)
  | bounce (sprite : SpriteId) (offset : Single)
  | transition (sprite : SpriteId) (image : String) (texture : Asset.Texture)
  | fadeOut (sprite : SpriteId) (speed : Single) (state : FadeState)
  | spin (sprite : SpriteId) (speed : Single) (state : SpinState)
deriving DecidableEq, Repr

/-- What an effect does. -/
def Effect.kind : Effect → EffectKind
  | audio _ => .audio
  | move _ _ _ _ => .move
  | bounce _ _ => .bounce
  | transition _ _ _ => .transition
  | fadeOut _ _ _ => .fadeOut
  | spin _ _ _ => .spin

/-! ### Moves -/

namespace MoveState

/-- The state of a move after its timer has gone or its motion was taken out. -/
def refresh (state : MoveState) (world : World) : MoveState :=
  match state with
  | idle => idle
  | pending timer tick =>
    if world.timers.isPending timer then pending timer tick
    else if world.animator.isRegistered tick then moving tick
    else idle
  | moving tick => if world.animator.isRegistered tick then moving tick else idle

/-- Starts a move, at once or after its pause. -/
def start (sprite : SpriteId) (velocity : Single) (pause : Nat) (world : World) :
    MoveState × World :=
  let motion := Motion.drift sprite velocity
  if pause = 0 then
    let (tick, world) := world.registerMotion motion
    (moving tick, world)
  else
    let (tick, animator) := world.animator.reserve
    let (timer, world) := { world with animator }.schedule pause (.startMotion tick motion)
    (pending timer tick, world)

/-- Starts a move unless it has been started. -/
def execute (sprite : SpriteId) (velocity : Single) (pause : Nat) (state : MoveState)
    (world : World) : MoveState × World :=
  match state.refresh world with
  | idle => start sprite velocity pause world
  | started => (started, world)

/-- Takes back the timer and the motion of a move. -/
def cancel (state : MoveState) (world : World) : World :=
  match state with
  | idle => world
  | pending timer tick => (world.cancelTimer timer).deregisterMotion tick
  | moving tick => world.deregisterMotion tick

end MoveState

/-! ### Fades -/

namespace FadeState

/-- The state of a fade after its motion has ended. -/
def refresh (state : FadeState) (world : World) : FadeState :=
  match state with
  | fading tick => if world.animator.isRegistered tick then fading tick else done
  | state => state

/-- Starts a fade unless it runs or is done. -/
def execute (sprite : SpriteId) (speed : Single) (state : FadeState) (world : World) :
    FadeState × World :=
  match state.refresh world with
  | idle =>
    let (tick, world) := world.registerMotion (.fade sprite speed)
    (fading tick, world)
  | started => (started, world)

/-- Takes back the motion of a fade that has been started. -/
def cancel (state : FadeState) (world : World) : FadeState × World :=
  match state with
  | fading tick => (idle, world.deregisterMotion tick)
  | state => (state, world)

end FadeState

/-! ### Spins -/

namespace SpinState

/-- Turns a spin on, about the middle of the sprite, or off. -/
def execute (sprite : SpriteId) (speed : Single) (state : SpinState) (world : World) :
    SpinState × World :=
  match state with
  | idle =>
    let world := world.modifySprite sprite fun sprite => { sprite with anchor := ⟨0.5, 0.5⟩ }
    let (tick, world) := world.registerMotion (.spin sprite speed)
    (active tick, world)
  | active tick =>
    (idle, (world.deregisterMotion tick).modifySprite sprite fun sprite =>
      { sprite with rotation := 0 })

/-- Takes back the motion of a spin. -/
def cancel (state : SpinState) (world : World) : World :=
  match state with
  | idle => world
  | active tick => world.deregisterMotion tick

end SpinState

/-! ### Effects -/

namespace Effect

/-- Stops a sound if it is playing. -/
def silence (sound : String) (world : World) : World :=
  if world.audio.isPlaying sound then { world with audio := world.audio.stop sound } else world

/-- Runs an effect once. -/
def execute (effect : Effect) (world : World) : Effect × World :=
  match effect with
  | audio sound => (effect, ((silence sound world).playSound sound).2)
  | move sprite velocity pause state =>
    let (state, world) := state.execute sprite velocity pause world
    (move sprite velocity pause state, world)
  | bounce sprite offset =>
    (effect, world.modifySprite sprite fun sprite =>
      { sprite with place := ⟨sprite.place.x, sprite.place.y - offset⟩ })
  | transition sprite image texture =>
    (effect, world.modifySprite sprite fun sprite => sprite.withTexture image texture)
  | fadeOut sprite speed state =>
    let (state, world) := state.execute sprite speed world
    (fadeOut sprite speed state, world)
  | spin sprite speed state =>
    let (state, world) := state.execute sprite speed world
    (spin sprite speed state, world)

/-- Calls an effect off. -/
def cancel (effect : Effect) (world : World) : Effect × World :=
  match effect with
  | audio sound => (effect, silence sound world)
  | move sprite velocity pause state => (move sprite velocity pause .idle, state.cancel world)
  | bounce _ _ => (effect, world)
  | transition _ _ _ => (effect, world)
  | fadeOut sprite speed state =>
    let (state, world) := state.cancel world
    (fadeOut sprite speed state, world)
  | spin sprite speed state => (spin sprite speed .idle, state.cancel world)

/-- The height that a bounce lifts a sprite by, where nothing else is set. -/
def standardOffset : Single :=
  100

/-- Makes an effect on a sprite of what a story says. -/
def build (resources : Asset.Resources) (offset : Single) (sprite : SpriteId)
    (spec : Story.Effect) : Except SkippedEffect Effect :=
  match spec with
  | .audio sound =>
    match resources.sound? sound with
    | some _ => return audio sound
    | none => throw ⟨spec.name, .noSound sound⟩
  | .move speed direction pause =>
    return move sprite (speed * direction.sign) (Span.millis (pause.getD 0)) .idle
  | .bounce _ => return bounce sprite offset
  | .transition image =>
    match resources.texture? image with
    | some texture => return transition sprite image texture
    | none => throw ⟨spec.name, .noImage image⟩
  | .fadeOut speed => return fadeOut sprite speed .idle
  | .spin speed => return spin sprite speed .idle
  | .unresolved name fault => throw ⟨name, .unresolved fault⟩

end Effect

end Storybook
