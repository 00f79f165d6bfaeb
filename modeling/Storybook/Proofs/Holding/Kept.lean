/-
**Worlds in which everything is kept.**

In a world that is kept, every motion and every start of one is held by a place, and every sprite has
an owner. Owners may have lost their sprites, when these are taken away from outside, and sprites may
have been left behind by their owners.

* `Losses`: which sprites may be lost, and in which way;
* `World.Kept`: the places hold, and the owners own, all that there is;
* `World.Kept.work`: the places work on sprites and hold something else;
* `World.Kept.create`, `World.Kept.destroy`: sprites come and go together with their owners;
* `World.Kept.lose`, `World.Kept.leave`: sprites and owners may lose each other;
* `World.Kept.tick`: a frame ends every motion whose sprite is gone, and with it what holds it.
-/

import Storybook.Proofs.Holding.Effects

namespace Storybook

/-- The sprites that may be lost: some may be taken away from outside though they have an owner, and
some may be left behind on the stage without one. -/
structure Losses where
  taken : SpriteId → Prop
  left : SpriteId → Prop

namespace Losses

/-- No sprite is lost. -/
def none : Losses :=
  ⟨fun _ => False, fun _ => False⟩

/-- Sprites may be taken away, but none is left behind. -/
def outside : Losses :=
  ⟨fun _ => True, fun _ => False⟩

/-- Sprites may be left behind, but none is taken away. -/
def inside : Losses :=
  ⟨fun _ => False, fun _ => True⟩

/-- Any sprite may be lost. -/
def any : Losses :=
  ⟨fun _ => True, fun _ => True⟩

end Losses

namespace World

/-- A frame of the motions, but for what is reported of it. -/
theorem tick_eq (world : World) (span : Nat) :
    let frame := Animator.steps (Span.frames span) world.animator.entries world.stage
    world.tick span = { world with
      animator := { world.animator with entries := frame.running }
      stage := frame.stage
      events := (world.tick span).events } :=
  reportAll_eq _ _

theorem entries_tick (world : World) (span : Nat) : (world.tick span).animator.entries =
    (Animator.steps (Span.frames span) world.animator.entries world.stage).running := by
  rw [tick_eq]

theorem timers_tick (world : World) (span : Nat) : (world.tick span).timers = world.timers := by
  rw [tick_eq]

theorem audio_tick (world : World) (span : Nat) : (world.tick span).audio = world.audio := by
  rw [tick_eq]

theorem thins_tick (world : World) (span : Nat) : world.stage.Thins (world.tick span).stage := by
  rw [tick_eq]
  exact Animator.thins_steps

/-- The places of `holdings` hold all motions and their starts, but for what strays under the handles
of `loose`, and the sprites are those of `owners`, but for those that are lost. -/
structure Kept (lost : Losses) (loose : List Loose) (holdings : List Holding)
    (owners : List SpriteId) (world : World) : Prop where
  stage : world.stage.Valid
  held : Held loose holdings world.animator world.timers
  owned : ∀ id ∈ world.stage.keys, id ∈ owners ∨ lost.left id
  there : ∀ id ∈ owners, id ∈ world.stage.keys ∨ lost.taken id
  given : ∀ id ∈ owners, id.number ≤ world.stage.issued
  apart : owners.Nodup

namespace Kept

variable {lost : Losses} {loose : List Loose} {holdings others : List Holding}
  {owners rest : List SpriteId} {world after : World}

/-- The order of the places and of the owners does not matter. -/
theorem perm (kept : Kept lost loose holdings owners world) (places : holdings.Perm others)
    (same : owners.Perm rest) : Kept lost loose others rest world where
  stage := kept.stage
  held := kept.held.perm places
  owned id member := (kept.owned id member).imp_left same.mem_iff.mp
  there id member := kept.there id (same.mem_iff.mpr member)
  given id member := kept.given id (same.mem_iff.mpr member)
  apart := same.nodup_iff.mp kept.apart

/-- What holds after the places have worked with the sprites that there are. -/
theorem thin {others : List Holding} {freed : List Loose}
    (kept : Kept lost loose holdings owners world) (thins : world.stage.Thins after.stage)
    (held : Held freed others after.animator after.timers) :
    Kept lost freed others owners after where
  stage := kept.stage.thin thins
  held := held
  owned id member := kept.owned id (thins.keys ▸ member)
  there id member := by
    rw [thins.keys]
    exact kept.there id member
  given id member := by
    rw [thins.issued]
    exact kept.given id member
  apart := kept.apart

theorem work {others : List Holding} {freed : List Loose}
    (kept : Kept lost loose holdings owners world) (keeps : world.stage.Keeps after.stage)
    (held : Held freed others after.animator after.timers) : Kept lost freed others owners after :=
  kept.thin keeps.thins held

/-- Nothing but the stage, the motions and the timers matters. -/
theorem congr (kept : Kept lost loose holdings owners world) (stage : after.stage = world.stage)
    (animator : after.animator = world.animator) (timers : after.timers = world.timers) :
    Kept lost loose holdings owners after :=
  kept.work (stage ▸ .refl _) (animator ▸ timers ▸ kept.held)

/-- Nor does what is reported. -/
theorem report (kept : World.Kept lost loose holdings owners world) (event : Event) :
    World.Kept lost loose holdings owners (world.report event) :=
  kept.congr rfl rfl rfl

/-- A new sprite has a new owner. -/
theorem create (kept : Kept lost loose holdings owners world) (sprite : Sprite) :
    Kept lost loose holdings ((world.createSprite sprite).1 :: owners)
      (world.createSprite sprite).2 where
  stage := kept.stage.create sprite
  held := kept.held
  owned id member := by
    have split : id ∈ world.stage.keys ++ [(world.stage.create sprite).1] :=
      world.stage.keys_create sprite ▸ member
    rcases List.mem_append.mp split with old | new
    · exact (kept.owned id old).imp_left (List.mem_cons_of_mem _)
    · rw [List.mem_singleton.mp new]
      exact Or.inl List.mem_cons_self
  there id member := by
    have split : (world.createSprite sprite).2.stage.keys
        = world.stage.keys ++ [(world.createSprite sprite).1] := world.stage.keys_create sprite
    rw [split, List.mem_append, List.mem_singleton]
    rcases List.mem_cons.mp member with new | old
    · exact Or.inl (Or.inr new)
    · exact (kept.there id old).imp_left Or.inl
  given id member := by
    rcases List.mem_cons.mp member with rfl | old
    · exact Nat.le_refl _
    · exact Nat.le_succ_of_le (kept.given id old)
  apart := by
    refine List.nodup_cons.mpr ⟨fun member => ?_, kept.apart⟩
    exact Nat.not_succ_le_self _ (kept.given _ member)

theorem attach (kept : Kept lost loose holdings owners world) (id : SpriteId) :
    Kept lost loose holdings owners (world.attachSprite id) where
  stage := kept.stage.attach id
  held := kept.held
  owned other member := kept.owned other (world.stage.keys_attach id ▸ member)
  there other member := by
    have same := kept.there other member
    rwa [← world.stage.keys_attach id] at same
  given other member := by
    have same := kept.given other member
    rwa [← world.stage.issued_attach id] at same
  apart := kept.apart

/-- An owner that gives up its sprite takes it off the stage. -/
theorem destroy {id : SpriteId} (kept : Kept lost loose holdings (id :: owners) world) :
    Kept lost loose holdings owners (world.destroySprite id) where
  stage := kept.stage.destroy id
  held := kept.held
  owned other member := by
    obtain ⟨present, different⟩ := Stage.mem_keys_destroy.mp member
    exact (kept.owned other present).imp_left fun listed =>
      (List.mem_cons.mp listed).resolve_left different
  there other member := by
    have different : other ≠ id := fun same =>
      (List.nodup_cons.mp kept.apart).1 (same ▸ member)
    exact (kept.there other (List.mem_cons_of_mem _ member)).imp_left fun present =>
      Stage.mem_keys_destroy.mpr ⟨present, different⟩
  given other member := kept.given other (List.mem_cons_of_mem _ member)
  apart := (List.nodup_cons.mp kept.apart).2

/-- A sprite that may be lost may be taken away from outside. -/
theorem lose (kept : Kept lost loose holdings owners world) {id : SpriteId} (may : lost.taken id) :
    Kept lost loose holdings owners (world.destroySprite id) where
  stage := kept.stage.destroy id
  held := kept.held
  owned other member := kept.owned other (Stage.mem_keys_destroy.mp member).1
  there other member := by
    by_cases same : other = id
    · exact Or.inr (same ▸ may)
    · exact (kept.there other member).imp_left fun present =>
        Stage.mem_keys_destroy.mpr ⟨present, same⟩
  given := kept.given
  apart := kept.apart

/-- A sprite that may be left behind may lose its owner. -/
theorem leave {id : SpriteId} (kept : Kept lost loose holdings (id :: owners) world)
    (may : lost.left id) : Kept lost loose holdings owners world where
  stage := kept.stage
  held := kept.held
  owned other member := by
    rcases kept.owned other member with listed | left
    · rcases List.mem_cons.mp listed with rfl | old
      · exact Or.inr may
      · exact Or.inl old
    · exact Or.inr left
  there other member := kept.there other (List.mem_cons_of_mem _ member)
  given other member := kept.given other (List.mem_cons_of_mem _ member)
  apart := (List.nodup_cons.mp kept.apart).2

/-- **A frame ends every motion whose sprite is gone**: then no stray is left. -/
theorem tick (kept : Kept lost loose holdings owners world)
    (strays : ∀ handle ∈ loose, ∀ motion, handle.motion = some motion →
      motion.sprite ∉ world.stage.keys) (span : Nat) :
    Kept lost [] holdings owners (world.tick span) := by
  let frame := Animator.steps (Span.frames span) world.animator.entries world.stage
  have distinct : (frame.running.map Prod.fst).Nodup := kept.held.once.sublist Animator.sublist_running
  refine kept.thin (world.thins_tick span) ?_
  rw [world.tick_eq]
  refine ⟨kept.held.distinct, kept.held.issued, fun entry running => ?_, kept.held.starts,
    List.nodup_nil, fun _ none => (nomatch none), fun _ none => (nomatch none),
    fun _ none => (nomatch none), distinct, kept.held.awaited⟩
  obtain ⟨old, member, id, motion, live⟩ := Animator.mem_running running
  rw [← id, ← motion]
  rcases kept.held.motions old member with wanders | holds
  · exact absurd live (strays _ wanders old.2 rfl)
  · exact Or.inr holds

end Kept

end World

end Storybook
