/-
**What a character does when it is triggered.**

The effects of an action make up a chain, which runs in order. A character has a chain for each
trigger under which its story has an action; actions under other keys are left aside. Effects that
cannot be used are left out of their chain. A character with a chain for touches can be touched, and
it glows.

* `Chain.fire`, `Chain.cancel`: running a chain and calling it off;
* `Binder.bind`: the chains of a character.
-/

import Storybook.Cast.Effect

namespace Storybook

/-- Effects that run in order. -/
structure Chain where
  trigger : Trigger
  effects : List Effect
deriving DecidableEq, Repr

namespace Chain

/-- What the effects of a chain do. -/
def kinds (chain : Chain) : List EffectKind :=
  chain.effects.map Effect.kind

/-- Runs effects in order, each reported before it runs. -/
def fireEach (trigger : Trigger) (character : CharacterId) :
    List Effect → World → List Effect × World
  | [], world => ([], world)
  | effect :: rest, world =>
    let (effect, world) :=
      effect.execute (world.report (.effectExecuted character trigger effect.kind))
    let (rest, world) := fireEach trigger character rest world
    (effect :: rest, world)

/-- Runs a chain. -/
def fire (chain : Chain) (character : CharacterId) (world : World) : Chain × World :=
  let (effects, world) := fireEach chain.trigger character chain.effects world
  ({ chain with effects }, world)

/-- Calls effects off in order. -/
def cancelEach : List Effect → World → List Effect × World
  | [], world => ([], world)
  | effect :: rest, world =>
    let (effect, world) := effect.cancel world
    let (rest, world) := cancelEach rest world
    (effect :: rest, world)

/-- Calls a chain off. -/
def cancel (chain : Chain) (world : World) : Chain × World :=
  let (effects, world) := cancelEach chain.effects world
  ({ chain with effects }, world)

end Chain

/-- The chains of a character. -/
structure Bindings where
  onLoad : Option Chain
  touch : Option Chain
deriving DecidableEq, Repr

namespace Bindings

/-- No chains. -/
def none : Bindings :=
  ⟨.none, .none⟩

/-- Binds a chain to its trigger. -/
def set (bindings : Bindings) (chain : Chain) : Bindings :=
  match chain.trigger with
  | .onLoad => { bindings with onLoad := some chain }
  | .touch => { bindings with touch := some chain }

/-- Calls off a chain that is to be dropped. -/
def cancelChain (chain : Option Chain) (world : World) : World :=
  match chain with
  | some chain => (chain.cancel world).2
  | .none => world

/-- Calls off all chains that are to be dropped. -/
def cancel (bindings : Bindings) (world : World) : World :=
  cancelChain bindings.touch (cancelChain bindings.onLoad world)

end Bindings

/-- What the binding of effects depends on beside the character. -/
structure Binder where
  /-- The height that a bounce lifts a sprite by. -/
  offset : Single
  /-- How touchable characters glow. -/
  style : Story.Style
deriving DecidableEq, Repr

namespace Binder

/-- What the binding of a character's actions has come to: its chains, the effects that were left
out, and the world. -/
structure Bound where
  bindings : Bindings
  skipped : List SkippedEffect
  world : World

/-- The effects that can be used, in order. -/
def usable (built : List (Except SkippedEffect Effect)) : List Effect :=
  built.filterMap Except.toOption

/-- The effects that cannot be used, in order. -/
def unusable (built : List (Except SkippedEffect Effect)) : List SkippedEffect :=
  built.filterMap fun
    | .ok _ => none
    | .error skipped => some skipped

/-- The remark on an effect that is left out. -/
def remarkSkipped (name : String) (trigger : Trigger) (world : World) (skipped : SkippedEffect) :
    World :=
  world.remark .warn .trigger s!"{name}: {skipped.message} ({trigger.key}), skipped"

/-- Lets a sprite be touched, and glow. -/
def makeTouchable (binder : Binder) (sprite : SpriteId) (world : World) : World :=
  world.modifySprite sprite fun sprite =>
    { sprite with
      interactive := true
      glow := some ⟨binder.style.distance, binder.style.strength, binder.style.colour⟩ }

/-- Binds one action. -/
def bindAction (binder : Binder) (name : String) (sprite : SpriteId) (bound : Bound)
    (action : String × List Story.Effect) : Bound :=
  match Trigger.ofKey? action.1 with
  | .none =>
    { bound with world :=
        bound.world.remark .warn .trigger s!"{name}: unknown action '{action.1}', skipped" }
  | some trigger =>
    let built := action.2.map (Effect.build bound.world.resources binder.offset sprite)
    let world := (unusable built).foldl (remarkSkipped name trigger) bound.world
    { bindings := bound.bindings.set ⟨trigger, usable built⟩
      skipped := bound.skipped ++ unusable built
      world := if trigger = .touch then binder.makeTouchable sprite world else world }

/-- Binds the actions of a character to its sprite. -/
def bind (binder : Binder) (character : Story.Character) (sprite : SpriteId) (world : World) :
    Bound :=
  character.actions.foldl (binder.bindAction character.name sprite) ⟨.none, [], world⟩

end Binder

end Storybook
