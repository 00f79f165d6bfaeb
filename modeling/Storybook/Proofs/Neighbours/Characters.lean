/-
**Characters spare each other.**

A character that is touched, and one that appears again, changes nothing but what is of its sprites, the
one that it had and the one that it has then.

* `Binder.spares_bind`: the binding of effects to a sprite;
* `Character.spares_disappear`, `Character.spares_enterStage`: a character leaves the stage and enters it;
* `Character.spares_touch`, `Character.spares_appear`: what is done with a character that is there.
-/

import Storybook.Proofs.Arrivals
import Storybook.Proofs.Neighbours.Effects

namespace Storybook

variable {own : List SpriteId} {loose : List Loose} {others : List Holding} {world : World}

/-! ### Binding -/

namespace Binder

theorem spares_bindAction (binder : Binder) (name : String) {sprite : SpriteId} (mine : sprite ∈ own)
    {bound : Bound} (spares : World.Spares own world bound.world)
    (action : String × List Story.Effect) :
    World.Spares own world (binder.bindAction name sprite bound action).world := by
  unfold bindAction
  split
  · exact spares.trans (.of_eq rfl rfl rfl)
  · rename_i trigger _
    obtain ⟨remarks, same⟩ := foldl_remarkSkipped name trigger
      (unusable (action.2.map (Effect.build bound.world.resources binder.offset sprite)))
      bound.world
    have remarked : World.Spares own world { bound.world with remarks } :=
      spares.trans (.of_eq rfl rfl rfl)
    dsimp only
    rw [same]
    split
    · exact remarked.trans (World.spares_modifySprite _ mine _)
    · exact remarked

theorem spares_bind (binder : Binder) (character : Story.Character) {sprite : SpriteId}
    (mine : sprite ∈ own) (world : World) :
    World.Spares own world (binder.bind character sprite world).world := by
  have all : ∀ (actions : List (String × List Story.Effect)) (bound : Bound),
      World.Spares own world bound.world →
        World.Spares own world (actions.foldl (binder.bindAction character.name sprite) bound).world := by
    intro actions
    induction actions with
    | nil => exact fun _ spares => spares
    | cons action later ih =>
      exact fun bound spares => ih _ (binder.spares_bindAction character.name mine spares action)
  exact all character.actions ⟨.none, [], world⟩ (.refl world)

end Binder

/-! ### Running chains -/

namespace Character

variable {character : Character}

/-- The effects of a character are those of its sprite. -/
theorem Coherent.mine (coherent : character.Coherent) (mine : ∀ sprite ∈ character.sprite, sprite ∈ own) :
    ∀ effect ∈ character.bindings.effects, ∀ sprite ∈ effect.sprite?, sprite ∈ own :=
  fun effect bound sprite works => mine sprite (coherent.effects effect bound sprite works)

theorem spares_fireOnLoad (coherent : character.Coherent)
    (mine : ∀ sprite ∈ character.sprite, sprite ∈ own)
    (held : Held loose (character.holdings ++ others) world.animator world.timers) :
    World.Spares own world (character.fireOnLoad world).2 := by
  have effects := coherent.mine mine
  unfold fireOnLoad
  unfold Bindings.effects at effects
  cases loads : character.bindings.onLoad with
  | none => exact .refl world
  | some chain =>
    rw [holdings_eq, loads, List.append_assoc] at held
    rw [loads] at effects
    exact Chain.spares_fireEach _ _ chain.effects (List.forall_mem_append.mp effects).1 held

/-- **A character that is touched spares the sprites of others.** -/
theorem spares_touch (coherent : character.Coherent)
    (mine : ∀ sprite ∈ character.sprite, sprite ∈ own)
    (held : Held loose (character.holdings ++ others) world.animator world.timers) :
    World.Spares own world (character.touch world).2.2 := by
  have effects := coherent.mine mine
  unfold touch
  split
  · rename_i sprite chain stands answers
    unfold Bindings.effects at effects
    rw [holdings_eq, answers, List.append_assoc, List.append_assoc] at held
    rw [answers] at effects
    exact Chain.spares_fireEach _ _ chain.effects (List.forall_mem_append.mp effects).2
      (held.perm (List.perm_append_comm_assoc _ _ _))
  · exact .refl world

/-! ### Leaving the stage -/

theorem spares_cancelChain (chain : Option Chain)
    (mine : ∀ effect ∈ Bindings.effectsOf chain, ∀ sprite ∈ effect.sprite?, sprite ∈ own)
    (held : Held loose (holdingsOf (Bindings.effectsOf chain) ++ others) world.animator
      world.timers) :
    World.Spares own world (Bindings.cancelChain chain world) := by
  cases chain with
  | none => exact .refl world
  | some chain => exact Chain.spares_cancelEach chain.effects mine held

/-- **A character that disappears spares the sprites of others.** -/
theorem spares_disappear (coherent : character.Coherent)
    (mine : ∀ sprite ∈ character.sprite, sprite ∈ own)
    (held : Held loose (character.holdings ++ others) world.animator world.timers) :
    World.Spares own world (character.disappear world).2 := by
  obtain ⟨onLoad, touch⟩ := List.forall_mem_append.mp (coherent.mine mine)
  rw [holdings_eq, List.append_assoc, List.append_assoc] at held
  have loaded := held_cancelChain character.bindings.onLoad held
  have left : Held loose (character.gravityHolding?.toList ++ others)
      (character.bindings.cancel world).animator (character.bindings.cancel world).timers :=
    held_cancelChain character.bindings.touch loaded
  have cancelled : World.Spares own world (character.bindings.cancel world) :=
    (spares_cancelChain _ onLoad held).trans (spares_cancelChain _ touch loaded)
  have grounded := coherent.gravity
  unfold disappear
  unfold gravityHolding? at left
  cases stands : character.sprite with
  | none =>
    rw [grounded stands]
    exact cancelled
  | some sprite =>
    have gone (world : World) : World.Spares own world (world.destroySprite sprite) :=
      world.spares_destroySprite (mine sprite stands)
    cases falls : character.gravity with
    | none => exact cancelled.trans (gone _)
    | some tick =>
      rw [falls, stands] at left
      have landed : World.Spares own (character.bindings.cancel world)
          ((character.bindings.cancel world).deregisterMotion tick) :=
        World.spares_deregister left (mine sprite stands)
      exact (cancelled.trans landed).trans (gone _)

theorem spares_withdraw (coherent : character.Coherent)
    (mine : ∀ sprite ∈ character.sprite, sprite ∈ own)
    (held : Held loose (character.holdings ++ others) world.animator world.timers) :
    World.Spares own world (character.withdraw world).2 := by
  unfold withdraw
  split
  · exact spares_disappear coherent mine held
  · exact .refl world

/-! ### Entering the stage -/

theorem spares_startGravity (character : Character) {sprite : SpriteId} (mine : sprite ∈ own)
    (world : World) : World.Spares own world (character.startGravity sprite world).2 := by
  unfold startGravity
  dsimp only
  split
  · exact .refl world
  · exact world.spares_registerMotion mine

/-- What is shown of a character. -/
theorem spares_show (character : Character) {sprite : SpriteId} (mine : sprite ∈ own)
    (skipped : List SkippedEffect) (world : World) :
    let shown := ((world.reportAll (skipped.map (.effectSkipped character.name))).attachSprite
      sprite).report (.characterShown character.id character.name)
    World.Spares own world shown := by
  dsimp only
  rw [World.reportAll_eq]
  have told : World.Spares own world { world with events :=
    (world.reportAll (skipped.map (.effectSkipped character.name))).events } := .of_eq rfl rfl rfl
  exact (told.trans (World.spares_attachSprite _ mine)).trans (.of_eq rfl rfl rfl)

/-- **A character that enters the stage spares the sprites that were there before.** -/
theorem spares_enterStage (character : Character) (binder : Binder) (texture : Asset.Texture)
    (rests : character.gravity = none) (mine : ⟨world.stage.issued + 1⟩ ∈ own)
    (held : Held loose others world.animator world.timers) :
    World.Spares own world (character.enterStage binder texture world).2 := by
  let made := world.createSprite (newSprite character.spec texture)
  let bound := binder.bind character.spec made.1 made.2
  let shown := ((bound.world.reportAll (bound.skipped.map (.effectSkipped character.name))).attachSprite
    made.1).report (.characterShown character.id character.name)
  let dressed := character.dressed made.1 bound.bindings
  have fresh : Binder.Fresh made.1 made.2 bound := binder.fresh_bind _ _ _
  have created : World.Spares own world made.2 := world.spares_createSprite _ mine
  have binds : World.Spares own made.2 bound.world := binder.spares_bind _ mine made.2
  have shows : World.Spares own bound.world shown :=
    character.spares_show mine bound.skipped bound.world
  obtain ⟨animator, timers⟩ : shown.animator = bound.world.animator ∧ shown.timers = bound.world.timers :=
    character.still_show bound.world made.1 bound.skipped
  have bare : Held loose (dressed.holdings ++ others) shown.animator shown.timers := by
    rw [character.holdings_dressed fresh rests, animator, timers, fresh.animator, fresh.timers]
    exact held
  have stands : ∀ sprite ∈ dressed.sprite, sprite ∈ own := by
    rintro sprite ⟨⟩
    exact mine
  have fires : World.Spares own shown (dressed.fireOnLoad shown).2 :=
    spares_fireOnLoad (character.coherent_dressed fresh) stands bare
  have falls := spares_startGravity (dressed.fireOnLoad shown).1 mine (dressed.fireOnLoad shown).2
  exact (((created.trans binds).trans shows).trans fires).trans falls

/-- **A character that appears again spares the sprites of others.** Its own are the one that it had
and the one that it has then. -/
theorem spares_appear (coherent : character.Coherent) (binder : Binder)
    (mine : ∀ sprite ∈ character.sprite, sprite ∈ own)
    (new : ∀ sprite ∈ (character.appear binder world).1.sprite, sprite ∈ own)
    (held : Held loose (character.holdings ++ others) world.animator world.timers) :
    World.Spares own world (character.appear binder world).2 := by
  have withdraws := character.turns_withdraw world
  have calm := withdraws.coherent coherent
  have offstage := character.sprite_withdraw world
  have spares := spares_withdraw coherent mine held
  rw [appear_eq] at new ⊢
  split at new
  · rename_i texture _
    have arrives := arrives_enterStage (character.withdraw world).1 binder texture
      (character.withdraw world).2
    have first := new _ arrives.sprite
    exact spares.trans (spares_enterStage _ binder texture (calm.gravity offstage) first
      (held_withdraw coherent held))
  · exact spares.trans (.of_eq rfl rfl rfl)

end Character

end Storybook
