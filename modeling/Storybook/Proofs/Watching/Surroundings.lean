/-
**Others leave an effect alone.**

Around an effect anything may go on: other effects are made, run and called off, motions are registered and
taken out, at once or by timers, frames pass and the stage changes. But others use only handles that they
own: those that their effects hold, those that they were given, and those that a timer of theirs waits for.
So they leave the motions under all other handles alone, and only a frame moves these on.

* `Surroundings.perform`: what others do;
* `Surroundings.Apart`: others own none of some handles;
* `Surroundings.spares_perform`: what others do spares all handles that they do not own;
* `Surroundings.apart_run`: they never get hold of one of them;
* `Surroundings.Apart.work`: nor do they when somebody else works with the world.
-/

import Storybook.Proofs.Holding.Characters
import Storybook.Proofs.Watching.Handles

namespace Storybook

/-! ### What others do -/

/-- Everything around an effect. -/
structure Surroundings where
  world : World
  /-- The other effects. -/
  effects : List Effect
  /-- The handles that others were given for motions of their own. -/
  ticks : List TickId
deriving DecidableEq, Repr

/-- What others do. -/
inductive Doing
  /-- Makes an effect. -/
  | build (spec : Story.Effect) (offset : Single) (sprite : SpriteId)
  /-- Runs one of the effects. -/
  | execute (place : Nat)
  /-- Calls one of the effects off. -/
  | cancel (place : Nat)
  | register (motion : Motion)
  | reserve
  /-- Registers a motion under one of the handles. -/
  | start (place : Nat) (motion : Motion)
  /-- Takes out the motion under one of the handles. -/
  | deregister (place : Nat)
  /-- Lets time pass for sounds and timers. What is due registers its motion. -/
  | advance (span : Nat)
  /-- Lets time pass for motions. -/
  | tick (span : Nat)
  /-- Changes the stage in some way. -/
  | arrange (stage : Stage)
deriving DecidableEq, Repr

/-- Only a frame moves motions on. -/
theorem Doing.tick_or_still (doing : Doing) :
    (∃ span, doing = .tick span) ∨ ∀ span, doing ≠ .tick span := by
  by_cases frame : ∃ span, doing = .tick span
  · exact Or.inl frame
  · exact Or.inr fun span same => frame ⟨span, same⟩

/-- Does what a timer was to do with the motions. -/
def World.dispatch (world : World) : Task → World
  | .startMotion tick motion => world.startMotion tick motion
  | _ => world

namespace Surroundings

/-- Nothing has happened, and nobody has anything. -/
def initial (viewport : Viewport) (resources : Asset.Resources) (audio : Audio) : Surroundings :=
  ⟨World.initial viewport resources audio, [], []⟩

/-- Lets one of the effects act. -/
def turn (around : Surroundings) (place : Nat) (act : Effect → World → Effect × World) : Surroundings :=
  match around.effects[place]? with
  | none => around
  | some effect =>
    let (effect, world) := act effect around.world
    { around with world, effects := around.effects.set place effect }

/-- Does something with one of the handles. -/
def handle (around : Surroundings) (place : Nat) (act : TickId → World → World) : Surroundings :=
  match around.ticks[place]? with
  | none => around
  | some tick => { around with world := act tick around.world }

/-- What others do. -/
def perform (around : Surroundings) : Doing → Surroundings
  | .build spec offset sprite =>
    match Effect.build around.world.resources offset sprite spec with
    | .ok effect => { around with effects := around.effects ++ [effect] }
    | .error _ => around
  | .execute place => around.turn place Effect.execute
  | .cancel place => around.turn place Effect.cancel
  | .register motion =>
    let (tick, world) := around.world.registerMotion motion
    { around with world, ticks := around.ticks ++ [tick] }
  | .reserve =>
    let (tick, animator) := around.world.animator.reserve
    { around with world := { around.world with animator }, ticks := around.ticks ++ [tick] }
  | .start place motion => around.handle place fun tick world => world.startMotion tick motion
  | .deregister place => around.handle place fun tick world => world.deregisterMotion tick
  | .advance span =>
    let (tasks, world) := around.world.advanceClock span
    { around with world := tasks.foldl World.dispatch world }
  | .tick span => { around with world := around.world.tick span }
  | .arrange stage => { around with world := { around.world with stage } }

/-- What others do, one thing after the other. -/
def run (around : Surroundings) (doings : List Doing) : Surroundings :=
  doings.foldl perform around

/-- Others own a handle: an effect of theirs holds it, they were given it, or a timer waits for it. -/
def Owns (around : Surroundings) (tick : TickId) : Prop :=
  (∃ effect ∈ around.effects, tick ∈ effect.ticks) ∨ tick ∈ around.ticks ∨ around.world.Awaits tick

/-- **Others own none of the handles `held`**, and all handles that are in use have been given out. -/
structure Apart (held : List TickId) (around : Surroundings) : Prop where
  owned : ∀ tick, around.Owns tick → tick.number ≤ around.world.animator.issued
  registered : ∀ tick, around.world.animator.isRegistered tick = true →
    tick.number ≤ around.world.animator.issued
  foreign : ∀ tick ∈ held, ¬ around.Owns tick ∧ tick.number ≤ around.world.animator.issued

theorem apart_initial (viewport : Viewport) (resources : Asset.Resources) (audio : Audio) :
    (initial viewport resources audio).Apart [] where
  owned tick owns := by
    rcases owns with ⟨_, none, _⟩ | none | ⟨_, none, _⟩ <;> cases none
  registered tick there := nomatch there
  foreign tick member := nomatch member

/-- What others did with handles they did with their own, and with new ones. -/
structure Spares (before after : Surroundings) : Prop where
  uses : World.Uses before.Owns before.world after.world
  effects : ∀ effect ∈ after.effects, ∀ tick ∈ effect.ticks,
    before.Owns tick ∨ before.world.animator.Issues after.world.animator tick
  ticks : ∀ tick ∈ after.ticks,
    before.Owns tick ∨ before.world.animator.Issues after.world.animator tick

variable {before after around : Surroundings} {held : List TickId}

namespace Spares

/-- Others may work with the world as long as they use what they own. -/
theorem of_uses {world : World} (uses : World.Uses before.Owns before.world world) :
    before.Spares { before with world } where
  uses := uses
  effects effect member _ holds := Or.inl (Or.inl ⟨effect, member, holds⟩)
  ticks _ member := Or.inl (Or.inr (Or.inl member))

theorem refl (around : Surroundings) : around.Spares around :=
  of_uses (.refl around.world)

/-- What others own is theirs from before, or new. -/
theorem owns (spares : before.Spares after) {tick : TickId} (owned : after.Owns tick) :
    before.Owns tick ∨ before.world.animator.Issues after.world.animator tick := by
  rcases owned with ⟨effect, member, holds⟩ | member | waits
  · exact spares.effects effect member tick holds
  · exact spares.ticks tick member
  · exact (spares.uses.awaited tick waits).imp_left fun waits => Or.inr (Or.inr waits)

/-- **Handles that others do not own stay apart from them.** -/
theorem apart (spares : before.Spares after) (apart : before.Apart held) : after.Apart held := by
  have issued := spares.uses.issued
  refine ⟨fun tick owned => ?_, fun tick there => ?_, fun tick member => ⟨fun owned => ?_, ?_⟩⟩
  · rcases spares.owns owned with old | new
    · exact Nat.le_trans (apart.owned tick old) issued
    · exact new.2
  · rcases spares.uses.registered tick there with old | old | new
    · exact Nat.le_trans (apart.registered tick old) issued
    · exact Nat.le_trans (apart.owned tick old) issued
    · exact new.2
  · rcases spares.owns owned with old | new
    · exact (apart.foreign tick member).1 old
    · exact Nat.not_le_of_lt new.1 (apart.foreign tick member).2
  · exact Nat.le_trans (apart.foreign tick member).2 issued

/-- **So do the motions under them.** -/
theorem under (spares : before.Spares after) (apart : before.Apart held) :
    after.world.animator.under held = before.world.animator.under held :=
  spares.uses.others held apart.foreign

end Spares

theorem spares_turn (around : Surroundings) (place : Nat) {act : Effect → World → Effect × World}
    (uses : ∀ effect : Effect, World.Uses (· ∈ effect.ticks) around.world (act effect around.world).2)
    (holds : ∀ effect : Effect, ∀ tick ∈ (act effect around.world).1.ticks, tick ∈ effect.ticks ∨
      around.world.animator.Issues (act effect around.world).2.animator tick) :
    around.Spares (around.turn place act) := by
  unfold turn
  split
  · exact .refl around
  · rename_i effect found
    have member := List.mem_of_getElem? found
    have mine (tick : TickId) (holds : tick ∈ effect.ticks) : around.Owns tick :=
      Or.inl ⟨effect, member, holds⟩
    refine ⟨(uses effect).mono mine, fun other present tick owned => ?_, fun tick given => ?_⟩
    · rcases List.mem_or_eq_of_mem_set present with old | rfl
      · exact Or.inl (Or.inl ⟨other, old, owned⟩)
      · exact (holds effect tick owned).imp_left (mine tick)
    · exact Or.inl (Or.inr (Or.inl given))

theorem spares_handle (around : Surroundings) (place : Nat) (act : TickId → World → World)
    (uses : ∀ tick, around.Owns tick → World.Uses around.Owns around.world (act tick around.world)) :
    around.Spares (around.handle place act) := by
  unfold handle
  split
  · exact .refl around
  · rename_i tick found
    exact .of_uses (uses tick (Or.inr (Or.inl (List.mem_of_getElem? found))))

/-- A new handle is given to others. -/
theorem spares_give (around : Surroundings) {world : World} {tick : TickId}
    (uses : World.Uses around.Owns around.world world)
    (issued : around.world.animator.Issues world.animator tick) :
    around.Spares { around with world, ticks := around.ticks ++ [tick] } where
  uses := uses
  effects effect member _ holds := Or.inl (Or.inl ⟨effect, member, holds⟩)
  ticks other member := by
    rcases List.mem_append.mp member with old | new
    · exact Or.inl (Or.inr (Or.inl old))
    · rw [List.mem_singleton.mp new]
      exact Or.inr issued

theorem spares_build (around : Surroundings) (spec : Story.Effect) (offset : Single)
    (sprite : SpriteId) : around.Spares (around.perform (.build spec offset sprite)) := by
  unfold perform
  dsimp only
  split
  · rename_i effect built
    refine ⟨.refl around.world, fun other member tick holds => ?_, fun tick member => ?_⟩
    · rcases List.mem_append.mp member with old | new
      · exact Or.inl (Or.inl ⟨other, old, holds⟩)
      · rw [List.mem_singleton.mp new] at holds
        obtain ⟨holding, there, _⟩ := Effect.mem_ticks.mp holds
        cases (Effect.new_of_build built).1.symm.trans there
    · exact Or.inl (Or.inr (Or.inl member))
  · exact .refl around

theorem uses_dispatch {own : TickId → Prop} (tasks : List Task) :
    ∀ world : World, (∀ tick motion, .startMotion tick motion ∈ tasks → own tick) →
      World.Uses own world (tasks.foldl World.dispatch world) := by
  induction tasks with
  | nil => exact fun world _ => .refl world
  | cons task rest ih =>
    intro world mine
    have first : World.Uses own world (world.dispatch task) := by
      cases task with
      | startMotion tick motion => exact world.uses_startMotion (mine tick motion List.mem_cons_self) motion
      | _ => exact .refl world
    exact first.trans (ih _ fun tick motion member => mine tick motion (List.mem_cons_of_mem _ member))

/-- When time passes for timers, they register the motions that they waited for. -/
theorem spares_advance (around : Surroundings) (span : Nat) :
    around.Spares (around.perform (.advance span)) := by
  have passed : World.Uses around.Owns around.world (around.world.advanceClock span).2 := by
    refine .of_eq rfl ?_
    rintro tick ⟨timer, member, motion, starts⟩
    obtain ⟨old, present, renews⟩ := TimerQueue.mem_advance member
    exact ⟨old, present, motion, renews.task ▸ starts⟩
  refine .of_uses (passed.trans (uses_dispatch _ _ fun tick motion due => ?_))
  obtain ⟨timer, fired, starts⟩ := List.mem_map.mp due
  obtain ⟨old, present, renews⟩ := TimerQueue.mem_fired fired
  exact Or.inr (Or.inr ⟨old, present, motion, renews.task ▸ starts⟩)

/-- **What others do spares all handles that they do not own**, but for frames, which move on every
motion. -/
theorem spares_perform (around : Surroundings) (doing : Doing) (still : ∀ span, doing ≠ .tick span) :
    around.Spares (around.perform doing) := by
  cases doing with
  | build spec offset sprite => exact around.spares_build spec offset sprite
  | execute place =>
    exact around.spares_turn place (fun effect => effect.uses_execute around.world)
      fun effect _ => effect.ticks_execute around.world
  | cancel place =>
    refine around.spares_turn place (fun effect => effect.uses_cancel around.world) fun effect tick none => ?_
    rw [effect.ticks_cancel] at none
    cases none
  | register motion =>
    exact around.spares_give (around.world.uses_registerMotion motion) ⟨Nat.lt_succ_self _, Nat.le_refl _⟩
  | reserve =>
    exact around.spares_give (around.world.uses_reserve rfl fun _ waits => Or.inl waits)
      ⟨Nat.lt_succ_self _, Nat.le_refl _⟩
  | start place motion =>
    exact around.spares_handle place (fun tick world => world.startMotion tick motion)
      fun tick mine => around.world.uses_startMotion mine motion
  | deregister place =>
    exact around.spares_handle place (fun tick world => world.deregisterMotion tick)
      fun tick mine => around.world.uses_deregisterMotion mine
  | advance span => exact around.spares_advance span
  | tick span => exact absurd rfl (still span)
  | arrange stage => exact .of_uses (.of_eq rfl fun _ waits => waits)

/-- A frame changes nothing of who owns what. -/
theorem apart_tick (apart : around.Apart held) (span : Nat) : (around.perform (.tick span)).Apart held := by
  have owns (tick : TickId) : (around.perform (.tick span)).Owns tick ↔ around.Owns tick := by
    show _ ∨ _ ∨ World.Awaits (around.world.tick span) tick ↔ _
    unfold World.Awaits
    rw [World.timers_tick]
    rfl
  have issued : (around.perform (.tick span)).world.animator.issued = around.world.animator.issued := by
    show (around.world.tick span).animator.issued = _
    rw [World.tick_eq]
  refine ⟨fun tick owned => ?_, fun tick there => ?_, fun tick member => ?_⟩
  · rw [issued]
    exact apart.owned tick ((owns tick).mp owned)
  · rw [issued]
    refine apart.registered tick ?_
    obtain ⟨entry, member, rfl⟩ := Animator.isRegistered_iff.mp there
    replace member : entry ∈ (around.world.tick span).animator.entries := member
    rw [World.entries_tick] at member
    obtain ⟨old, present, same, _⟩ := Animator.mem_running member
    exact Animator.isRegistered_iff.mpr ⟨old, present, same⟩
  · rw [issued, owns]
    exact apart.foreign tick member

/-- **Whatever others do, handles that they do not own stay apart from them.** -/
theorem apart_perform (apart : around.Apart held) (doing : Doing) : (around.perform doing).Apart held := by
  rcases doing.tick_or_still with ⟨span, rfl⟩ | still
  · exact apart_tick apart span
  · exact (around.spares_perform doing still).apart apart

theorem apart_run (apart : around.Apart held) (doings : List Doing) : (around.run doings).Apart held := by
  induction doings generalizing around with
  | nil => exact apart
  | cons doing rest ih => exact ih (apart_perform apart doing)

/-- One who has handles of its own may work with the world, and may get new ones. Others own as little of
them as before. -/
theorem Apart.work {world : World} (apart : around.Apart held) (more : List TickId)
    (uses : World.Uses (· ∈ held) around.world world) (timers : world.timers = around.world.timers)
    (got : ∀ tick ∈ more, tick ∈ held ∨ around.world.animator.Issues world.animator tick) :
    Apart (more ++ held) { around with world } := by
  have owns (tick : TickId) : Owns { around with world } tick ↔ around.Owns tick := by
    unfold Owns World.Awaits
    rw [timers]
  have kept (tick : TickId) (member : tick ∈ held) :
      ¬ Owns { around with world } tick ∧ tick.number ≤ world.animator.issued :=
    ⟨mt (owns tick).mp (apart.foreign tick member).1,
      Nat.le_trans (apart.foreign tick member).2 uses.issued⟩
  refine ⟨fun tick owned => ?_, fun tick there => ?_, fun tick member => ?_⟩
  · exact Nat.le_trans (apart.owned tick ((owns tick).mp owned)) uses.issued
  · rcases uses.registered tick there with old | old | new
    · exact Nat.le_trans (apart.registered tick old) uses.issued
    · exact (kept tick old).2
    · exact new.2
  · rcases List.mem_append.mp member with new | old
    · rcases got tick new with old | new
      · exact kept tick old
      · refine ⟨fun owned => ?_, new.2⟩
        exact Nat.not_le_of_lt new.1 (apart.owned tick ((owns tick).mp owned))
    · exact kept tick old

end Surroundings

end Storybook
