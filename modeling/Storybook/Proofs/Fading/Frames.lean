/-
**Fades that end in a frame.**

When the motions move, a removal is reported for every fade that ends while its sprite is there. These
fades are those of the character with the sprite, each under a handle of its own, so that as many fades of
the character come to their end as removals are reported.

* `World.ending`, `World.removals_tick`: what ends in a frame, and what is reported of it;
* `World.isRegistered_tick`: which handles have no motion any more;
* `Chain.hasFaded_tick`: the fades of a chain that come to their end;
* `Scene.Kept.faded_tick`: they are the fades that end.
-/

import Storybook.Proofs.Fading.Characters
import Storybook.Proofs.Holding.Quiet

namespace Storybook

/-! ### What is reported -/

/-- The motion is a fade of the sprite. -/
def Motion.fadesAway (sprite : SpriteId) (motion : Motion) : Bool :=
  motion.kind = .fade ∧ motion.sprite = sprite

namespace World

/-- The motions that end in a frame, with their handles. -/
def ending (world : World) (span : Nat) : List (TickId × Motion) :=
  (Animator.steps (Span.frames span) world.animator.entries world.stage).finished

variable {world : World} {sprite : SpriteId}

theorem count_finishedEvents (stage : Stage) (motion : Motion) (sprite : SpriteId) :
    (finishedEvents stage motion).count (.spriteRemoved sprite) =
      if motion.fadesAway sprite ∧ stage.isLive sprite then 1 else 0 := by
  unfold finishedEvents Motion.fadesAway
  dsimp only
  by_cases own : motion.sprite = sprite
  · subst own
    split <;> simp_all
  · split <;> simp [own]

theorem count_ended (stage : Stage) (sprite : SpriteId) (ended : List (TickId × Motion)) :
    (ended.flatMap fun entry => finishedEvents stage entry.2).count (.spriteRemoved sprite) =
      ended.countP fun entry => entry.2.fadesAway sprite ∧ stage.isLive sprite := by
  induction ended with
  | nil => rfl
  | cons entry rest ih =>
    rw [List.flatMap_cons, List.count_append, List.countP_cons, ih, count_finishedEvents, Nat.add_comm]
    simp only [decide_eq_true_eq]

theorem removals_tick_eq (world : World) (span : Nat) (sprite : SpriteId) :
    (world.tick span).removals sprite = world.removals sprite +
      (world.ending span).countP fun entry =>
        entry.2.fadesAway sprite ∧ (world.tick span).stage.isLive sprite := by
  have stage := congrArg World.stage (world.tick_eq span)
  rw [← count_ended, stage]
  unfold removals tick
  dsimp only
  rw [toList_reportAll, List.count_append]
  rfl

/-- **A removal is reported for every fade that ends** while its sprite is there. -/
theorem removals_tick (live : sprite ∈ world.stage.keys) (span : Nat) :
    (world.tick span).removals sprite = world.removals sprite +
      (world.ending span).countP fun entry => entry.2.fadesAway sprite := by
  have there : (world.tick span).stage.isLive sprite = true :=
    Stage.isLive_iff.mpr ((world.thins_tick span).keys ▸ live)
  rw [removals_tick_eq, there]
  simp only [and_true, Bool.decide_eq_true]

/-- No removal is reported of a sprite that is gone. -/
theorem removals_tick_of_gone (gone : sprite ∉ world.stage.keys) (span : Nat) :
    (world.tick span).removals sprite = world.removals sprite := by
  have none : (world.tick span).stage.isLive sprite = false := by
    refine Bool.eq_false_iff.mpr fun live => gone ?_
    exact (world.thins_tick span).keys ▸ Stage.isLive_iff.mp live
  rw [removals_tick_eq, none]
  simp

/-! ### What is registered -/

/-- The motions that go on and those that end are those that were registered. -/
theorem perm_tick (world : World) (span : Nat) : ((world.tick span).animator.entries.map Prod.fst ++
    (world.ending span).map Prod.fst).Perm (world.animator.entries.map Prod.fst) := by
  rw [world.tick_eq]
  exact Animator.perm_steps

/-- **After a frame a motion is registered** if it was registered before and has not ended. -/
theorem isRegistered_tick (once : (world.animator.entries.map Prod.fst).Nodup) (span : Nat)
    (tick : TickId) : (world.tick span).animator.isRegistered tick =
      (world.animator.isRegistered tick && tick ∉ (world.ending span).map Prod.fst) := by
  have split := world.perm_tick span
  have apart := (List.nodup_append.mp (split.nodup_iff.mpr once)).2.2
  rw [Bool.eq_iff_iff, Bool.and_eq_true, decide_eq_true_eq, Animator.isRegistered_iff_mem,
    Animator.isRegistered_iff_mem, ← split.mem_iff, List.mem_append]
  constructor
  · exact fun runs => ⟨Or.inl runs, fun ended => apart _ runs _ ended rfl⟩
  · exact fun ⟨listed, goesOn⟩ => listed.resolve_right goesOn

/-- A motion that ends was registered. -/
theorem isRegistered_of_ending {span : Nat} {tick : TickId}
    (ends : tick ∈ (world.ending span).map Prod.fst) : world.animator.isRegistered tick = true := by
  obtain ⟨entry, member, rfl⟩ := List.mem_map.mp ends
  obtain ⟨old, registered, same, _⟩ := Animator.mem_finished member
  exact Animator.isRegistered_iff.mpr ⟨old, registered, same⟩

end World

/-! ### The fades of chains -/

namespace Effect

variable {effect : Effect} {tick : TickId}

/-- The handle of a fade that has begun. -/
def fading? : Effect → Option TickId
  | fadeOut _ _ (.fading tick) => some tick
  | _ => none

theorem eq_of_fading? (fades : effect.fading? = some tick) :
    ∃ sprite speed, effect = .fadeOut sprite speed (.fading tick) := by
  cases effect with
  | fadeOut sprite speed state =>
    cases state <;> cases fades
    exact ⟨sprite, speed, rfl⟩
  | _ => cases fades

/-- What holds a fade is a fade that has begun. -/
theorem fading?_of_holding? {holding : Holding} (holds : effect.holding? = some holding)
    (fades : holding.motion.kind = .fade) : effect.fading? = some holding.tick := by
  cases effect with
  | move sprite velocity pause state =>
    cases state <;> cases holds <;> cases fades
  | fadeOut sprite speed state =>
    cases state <;> cases holds
    rfl
  | spin sprite speed state =>
    cases state <;> cases holds
    cases fades
  | _ => cases holds

/-- Whether another effect is a fade that has come to its end does not depend on the motions. -/
theorem hasFaded_of_fading?_eq_none (other : effect.fading? = none) (first last : World) :
    effect.hasFaded last = effect.hasFaded first := by
  cases effect with
  | fadeOut sprite speed state =>
    cases state with
    | fading tick => cases other
    | _ => rfl
  | _ => rfl

end Effect

/-- **In a frame those fades of a chain come to their end** whose motions end. -/
theorem Chain.hasFaded_tick {world : World} (once : (world.animator.entries.map Prod.fst).Nodup)
    (span : Nat) (effects : List Effect) :
    effects.countP (Effect.hasFaded (world.tick span)) = effects.countP (Effect.hasFaded world) +
      ((effects.filterMap Effect.fading?).filter (· ∈ (world.ending span).map Prod.fst)).length := by
  induction effects with
  | nil => rfl
  | cons effect rest ih =>
    rw [List.countP_cons, List.countP_cons, ih]
    cases fades : effect.fading? with
    | none =>
      rw [List.filterMap_cons_none fades, Effect.hasFaded_of_fading?_eq_none fades world]
      omega
    | some tick =>
      obtain ⟨sprite, speed, rfl⟩ := Effect.eq_of_fading? fades
      rw [List.filterMap_cons_some fades, Effect.hasFaded_fading, Effect.hasFaded_fading,
        World.isRegistered_tick once, List.filter_cons]
      by_cases ends : tick ∈ (world.ending span).map Prod.fst
      · simp only [World.isRegistered_of_ending ends, ends, not_true_eq_false, decide_true, decide_false,
          Bool.and_false, Bool.not_false, Bool.not_true, Bool.false_eq_true, if_true, if_false,
          List.length_cons]
        omega
      · simp only [ends, not_false_eq_true, decide_true, decide_false, Bool.and_true, Bool.false_eq_true,
          if_false]
        omega

/-! ### The fades of characters -/

namespace Character

variable {character : Character}

/-- The handles of the fades of a character that have begun. -/
def fading (character : Character) : List TickId :=
  character.bindings.effects.filterMap Effect.fading?

/-- The fades of a character that have begun are what it holds of fades. -/
theorem mem_fading {tick : TickId} : tick ∈ character.fading ↔
    ∃ holding ∈ character.holdings, holding.tick = tick ∧ holding.motion.kind = .fade := by
  constructor
  · intro member
    obtain ⟨effect, bound, fades⟩ := List.mem_filterMap.mp member
    obtain ⟨sprite, speed, rfl⟩ := Effect.eq_of_fading? fades
    exact ⟨_, List.mem_append_left _ (List.mem_filterMap.mpr ⟨_, bound, rfl⟩), rfl, rfl⟩
  · rintro ⟨holding, member, rfl, fades⟩
    rcases List.mem_append.mp member with inside | inside
    · obtain ⟨effect, bound, holds⟩ := List.mem_filterMap.mp inside
      exact List.mem_filterMap.mpr ⟨effect, bound, Effect.fading?_of_holding? holds fades⟩
    · unfold gravityHolding? at inside
      split at inside
      · cases List.mem_singleton.mp inside
        cases fades
      · cases inside

theorem sublist_fading (effects : List Effect) :
    (effects.filterMap Effect.fading?).Sublist (ticksOf effects) := by
  induction effects with
  | nil => exact .refl _
  | cons effect rest ih =>
    rw [ticksOf_cons]
    cases fades : effect.fading? with
    | none =>
      rw [List.filterMap_cons_none fades]
      exact ih.trans (List.sublist_append_right _ _)
    | some tick =>
      obtain ⟨sprite, speed, rfl⟩ := Effect.eq_of_fading? fades
      rw [List.filterMap_cons_some fades]
      exact ih.cons_cons tick

end Character

variable {lost : Losses} {loose : List Loose} {holdings : List Holding} {world : World}

/-- A motion that ends strays, or it is held. -/
theorem Held.of_ending (held : Held loose holdings world.animator world.timers) {span : Nat}
    {entry : TickId × Motion} (ends : entry ∈ world.ending span) :
    (∃ motion, ⟨entry.1, some motion⟩ ∈ loose ∧ motion.sprite = entry.2.sprite) ∨
      ∃ holding ∈ holdings, holding.tick = entry.1 ∧ holding.motion.kind = entry.2.kind ∧
        holding.motion.sprite = entry.2.sprite := by
  obtain ⟨old, registered, same, rest, _⟩ := Animator.mem_finished ends
  rw [← same, ← Motion.kind_of_atRest rest, ← Motion.sprite_of_atRest rest]
  rcases held.motions old registered with stray | ⟨holding, member, tick, motion⟩
  · exact Or.inl ⟨old.2, stray, rfl⟩
  · refine Or.inr ⟨holding, member, tick, ?_, ?_⟩
    · rw [motion, Motion.kind_atRest]
    · rw [motion, Motion.sprite_atRest]

namespace Scene

variable {scene : Scene} {character : Character} {sprite : SpriteId}

/-- **A fade that ends while its sprite is there** is one of the character with the sprite. -/
theorem Kept.owner_of_ending (kept : scene.Kept lost loose world)
    (strays : ∀ handle ∈ loose, ∀ motion, handle.motion = some motion →
      motion.sprite ∉ world.stage.keys)
    (live : sprite ∈ world.stage.keys) {span : Nat} {entry : TickId × Motion}
    (ending : entry ∈ world.ending span) (fades : entry.2.fadesAway sprite = true) :
    ∃ character ∈ scene.characters, character.sprite = some sprite ∧ entry.1 ∈ character.fading := by
  obtain ⟨kind, rfl⟩ := of_decide_eq_true fades
  rcases kept.kept.held.of_ending ending with ⟨motion, stray, same⟩ | ⟨found, place, tick, same, moves⟩
  · exact absurd live (same ▸ strays _ stray motion rfl)
  · obtain ⟨character, member, holds⟩ := List.mem_flatMap.mp place
    have stands := (kept.coherent character member).sprite holds
    rw [moves] at stands
    exact ⟨character, member, stands, Character.mem_fading.mpr ⟨found, holds, tick, same.trans kind⟩⟩

/-- The fades of a sprite that end in a frame are the fades of its character whose motions end. -/
theorem Kept.mem_ending (kept : scene.Kept lost loose world)
    (strays : ∀ handle ∈ loose, ∀ motion, handle.motion = some motion →
      motion.sprite ∉ world.stage.keys)
    (member : character ∈ scene.characters) (stands : character.sprite = some sprite)
    (live : sprite ∈ world.stage.keys) (span : Nat) (tick : TickId) :
    (tick ∈ character.fading ∧ tick ∈ (world.ending span).map Prod.fst) ↔
      tick ∈ ((world.ending span).filter fun entry => entry.2.fadesAway sprite).map Prod.fst := by
  have held := kept.kept.held
  have coherent := kept.coherent character member
  constructor
  · rintro ⟨begun, ends⟩
    obtain ⟨holding, holds, rfl, fades⟩ := Character.mem_fading.mp begun
    obtain ⟨entry, ending, same⟩ := List.mem_map.mp ends
    have inside : holding ∈ scene.holdings := List.mem_flatMap.mpr ⟨character, member, holds⟩
    refine List.mem_map.mpr ⟨entry, List.mem_filter.mpr ⟨ending, ?_⟩, same⟩
    rcases held.of_ending ending with ⟨motion, stray, _⟩ | ⟨found, place, tick, kind, own⟩
    · exact absurd same.symm (held.apart _ stray holding inside)
    · cases List.inj_on_of_nodup_map held.distinct place inside (tick.trans same)
      have moves := Option.some.inj (stands.symm.trans (coherent.sprite holds))
      exact decide_eq_true ⟨kind.symm.trans fades, own.symm.trans moves.symm⟩
  · intro ends
    obtain ⟨entry, away, rfl⟩ := List.mem_map.mp ends
    obtain ⟨ending, fades⟩ := List.mem_filter.mp away
    obtain ⟨owner, listed, own, begun⟩ := kept.owner_of_ending strays live ending fades
    have same : owner = character :=
      Settled.eq_of_nodup_spritesOf kept.settled.sprites owner listed character member sprite own stands
    exact ⟨same ▸ begun, List.mem_map_of_mem ending⟩

/-- **In a frame as many fades of a character come to their end** as fades of its sprite end. -/
theorem Kept.faded_tick (kept : scene.Kept lost loose world)
    (strays : ∀ handle ∈ loose, ∀ motion, handle.motion = some motion →
      motion.sprite ∉ world.stage.keys)
    (member : character ∈ scene.characters) (stands : character.sprite = some sprite)
    (live : sprite ∈ world.stage.keys) (span : Nat) :
    character.faded (world.tick span) = character.faded world +
      (world.ending span).countP fun entry => entry.2.fadesAway sprite := by
  have once := kept.kept.held.once
  have begun : character.fading.Nodup := by
    have distinct := (kept.single (kept.numbered.found member)).held.distinct
    rw [Character.holdings, List.append_assoc, List.map_append] at distinct
    exact (List.nodup_append.mp distinct).1.sublist (Character.sublist_fading _)
  have ended : (((world.ending span).filter fun entry => entry.2.fadesAway sprite).map Prod.fst).Nodup := by
    have all := (world.perm_tick span).nodup_iff.mpr once
    exact (List.nodup_append.mp all).2.1.sublist (List.filter_sublist.map Prod.fst)
  have same := (List.perm_ext_iff_of_nodup (begun.filter _) ended).mpr fun tick =>
    List.mem_filter.trans ((and_congr_right' decide_eq_true_iff).trans
      (kept.mem_ending strays member stands live span tick))
  unfold Character.faded
  rw [Chain.hasFaded_tick once]
  refine congrArg (_ + ·) (same.length_eq.trans ?_)
  rw [List.length_map, List.countP_eq_length_filter]

end Scene

end Storybook
