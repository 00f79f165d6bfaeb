/-
**One effect, watched.**

One effect is run and called off, while others do what they do. The motions that it has registered are those
under the handles that it has ever held. Others leave them alone; only a frame moves them on.

* `Bench.run`: what happens to the effect and around it;
* `Bench.motions`: the motions that it has registered;
* `Bench.Sound`, `Bench.Sound.run`: others never get hold of its handles;
* `Bench.Sound.motions_others`: they leave its motions alone;
* `Bench.motions_tick`: what a frame does with the only one.
-/

import Storybook.Proofs.Commuting
import Storybook.Proofs.Watching.Surroundings

namespace Storybook

/-! ### The bench -/

/-- An effect, and what is around it. -/
structure Bench where
  effect : Effect
  /-- The handles that the effect has ever held. -/
  held : List TickId
  around : Surroundings
deriving DecidableEq, Repr

/-- What happens to the effect and around it. -/
inductive Deed
  | execute
  | cancel
  | others (doing : Doing)
deriving DecidableEq, Repr

/-- What others do. -/
def Deed.doing? : Deed → Option Doing
  | others doing => some doing
  | _ => none

namespace Bench

/-- An effect is put on the bench before it has done anything. -/
def watch (effect : Effect) (around : Surroundings) : Bench :=
  ⟨effect, [], around⟩

/-- What happens to the effect and around it. -/
def perform (bench : Bench) : Deed → Bench
  | .execute =>
    let (effect, world) := bench.effect.execute bench.around.world
    ⟨effect, effect.ticks ++ bench.held, { bench.around with world }⟩
  | .cancel =>
    let (effect, world) := bench.effect.cancel bench.around.world
    { bench with effect, around := { bench.around with world } }
  | .others doing => { bench with around := bench.around.perform doing }

/-- What happens, one thing after the other. -/
def run (bench : Bench) (deeds : List Deed) : Bench :=
  deeds.foldl perform bench

/-- **The motions that the effect has registered.** -/
def motions (bench : Bench) : List (TickId × Motion) :=
  bench.around.world.animator.under bench.held

/-- The sprite is there all the time. -/
def Lives (bench : Bench) (sprite : SpriteId) (deeds : List Deed) : Prop :=
  ∀ first ∈ deeds.inits, (bench.run first).around.world.stage.isLive sprite = true

instance (bench : Bench) (sprite : SpriteId) (deeds : List Deed) :
    Decidable (bench.Lives sprite deeds) :=
  inferInstanceAs (Decidable (∀ first ∈ deeds.inits, _))

theorem Lives.now {bench : Bench} {sprite : SpriteId} {deeds : List Deed}
    (lives : bench.Lives sprite deeds) : bench.around.world.stage.isLive sprite = true := by
  cases deeds with
  | nil => exact lives [] List.mem_cons_self
  | cons deed rest => exact lives [] List.mem_cons_self

theorem Lives.later {bench : Bench} {sprite : SpriteId} {deed : Deed} {rest : List Deed}
    (lives : bench.Lives sprite (deed :: rest)) : (bench.perform deed).Lives sprite rest :=
  fun first member => lives (deed :: first) (List.mem_cons_of_mem _ (List.mem_map_of_mem member))

theorem Lives.last {bench : Bench} {sprite : SpriteId} {deeds : List Deed}
    (lives : bench.Lives sprite deeds) : (bench.run deeds).around.world.stage.isLive sprite = true := by
  induction deeds generalizing bench with
  | nil => exact lives.now
  | cons deed rest ih => exact ih lives.later

/-- The stage that the first motion of the effect meets in a frame. -/
def met (bench : Bench) (span : Nat) : Stage :=
  let others := bench.around.world.animator.entries.takeWhile fun entry => entry.1 ∉ bench.held
  (Animator.steps (Span.frames span) others bench.around.world.stage).stage

end Bench

/-! ### Handles that are its own -/

namespace Effect

variable (effect : Effect) (world : World)

theorem kind_execute : (effect.execute world).1.kind = effect.kind := by
  cases effect <;> rfl

theorem kind_cancel : (effect.cancel world).1.kind = effect.kind := by
  cases effect <;> rfl

theorem timers_silence (sound : String) : (silence sound world).timers = world.timers := by
  unfold silence
  split <;> rfl

/-- Only a move uses timers. -/
theorem timers_execute (prompt : effect.kind ≠ .move) :
    (effect.execute world).2.timers = world.timers := by
  cases effect with
  | audio sound => exact timers_silence world sound
  | move sprite velocity pause state => exact absurd rfl prompt
  | bounce sprite offset => rfl
  | transition sprite image texture => rfl
  | fadeOut sprite speed state =>
    show (state.execute sprite speed world).2.timers = _
    unfold FadeState.execute
    split <;> rfl
  | spin sprite speed state => cases state <;> rfl

theorem timers_cancel (prompt : effect.kind ≠ .move) :
    (effect.cancel world).2.timers = world.timers := by
  cases effect with
  | audio sound => exact timers_silence world sound
  | move sprite velocity pause state => exact absurd rfl prompt
  | bounce sprite offset => rfl
  | transition sprite image texture => rfl
  | fadeOut sprite speed state => cases state <;> rfl
  | spin sprite speed state => cases state <;> rfl

end Effect

namespace Bench

variable {bench : Bench}

theorem perform_execute {effect : Effect} (same : bench.effect = effect) :
    bench.perform .execute =
      let (after, world) := effect.execute bench.around.world
      ⟨after, after.ticks ++ bench.held, { bench.around with world }⟩ :=
  same ▸ rfl

theorem perform_cancel {effect : Effect} (same : bench.effect = effect) :
    bench.perform .cancel =
      let (after, world) := effect.cancel bench.around.world
      ⟨after, bench.held, { bench.around with world }⟩ :=
  same ▸ rfl

/-- **Others own none of the handles that the effect has ever held**, and no timer waits for one. -/
structure Sound (bench : Bench) : Prop where
  prompt : bench.effect.kind ≠ .move
  apart : bench.around.Apart bench.held
  mine : ∀ tick ∈ bench.effect.ticks, tick ∈ bench.held

theorem sound_watch {effect : Effect} {around : Surroundings} (prompt : effect.kind ≠ .move)
    (apart : around.Apart []) (idle : effect.ticks = []) : (watch effect around).Sound where
  prompt := prompt
  apart := apart
  mine := idle ▸ fun _ none => nomatch none

namespace Sound

theorem perform (sound : bench.Sound) (deed : Deed) : (bench.perform deed).Sound := by
  have uses {after : World} (uses : World.Uses (· ∈ bench.effect.ticks) bench.around.world after) :
      World.Uses (· ∈ bench.held) bench.around.world after := uses.mono sound.mine
  cases deed with
  | execute =>
    refine ⟨?_, ?_, fun tick => List.mem_append_left _⟩
    · exact (bench.effect.kind_execute _).trans_ne sound.prompt
    · refine sound.apart.work _ (uses (bench.effect.uses_execute _))
        (bench.effect.timers_execute _ sound.prompt) fun tick member => ?_
      exact (bench.effect.ticks_execute _ member).imp_left (sound.mine tick)
  | cancel =>
    refine ⟨?_, ?_, fun tick member => ?_⟩
    · exact (bench.effect.kind_cancel _).trans_ne sound.prompt
    · exact sound.apart.work [] (uses (bench.effect.uses_cancel _))
        (bench.effect.timers_cancel _ sound.prompt) fun _ none => nomatch none
    · replace member : tick ∈ (bench.effect.cancel bench.around.world).1.ticks := member
      rw [bench.effect.ticks_cancel] at member
      cases member
  | others doing => exact ⟨sound.prompt, Surroundings.apart_perform sound.apart doing, sound.mine⟩

/-- **The handles of the effect stay its own, whatever happens.** -/
theorem run (sound : bench.Sound) (deeds : List Deed) : (bench.run deeds).Sound := by
  induction deeds generalizing bench with
  | nil => exact sound
  | cons deed rest ih => exact ih (sound.perform deed)

/-- **Others leave the motions of the effect alone**, but for frames. -/
theorem motions_others (sound : bench.Sound) {doing : Doing} (still : ∀ span, doing ≠ .tick span) :
    (bench.perform (.others doing)).motions = bench.motions :=
  (bench.around.spares_perform doing still).under sound.apart

/-- A motion that the effect registers is its last one. -/
theorem under_register (sound : bench.Sound) (motion : Motion) :
    let (tick, after) := bench.around.world.animator.register motion
    after.under (tick :: bench.held) = bench.motions ++ [(tick, motion)] :=
  bench.around.world.animator.under_register sound.apart.registered bench.held motion

end Sound
end Bench

/-! ### Frames -/

namespace Animator

variable {held : List TickId} {delta : Single} {entries : List (TickId × Motion)} {stage : Stage}

/-- A frame registers nothing. -/
theorem running_under_of_none (none : ∀ entry ∈ entries, entry.1 ∉ held) :
    (steps delta entries stage).running.filter (fun entry => entry.1 ∈ held) = [] := by
  refine List.filter_eq_nil_iff.mpr fun entry running inside => ?_
  obtain ⟨old, member, same, _⟩ := mem_running running
  exact none old member (same ▸ of_decide_eq_true inside)

/-- What stands before the only motion under some handles, and after it. -/
theorem exists_append_of_under {animator : Animator} {entry : TickId × Motion}
    (only : animator.under held = [entry]) :
    ∃ first rest, animator.entries = first ++ entry :: rest ∧ entry.1 ∈ held ∧
      (∀ other ∈ first, other.1 ∉ held) ∧ ∀ other ∈ rest, other.1 ∉ held := by
  obtain ⟨first, rest, split, before, mine, after⟩ := List.filter_eq_cons_iff.mp only
  refine ⟨first, rest, split, of_decide_eq_true mine, fun other member inside => ?_,
    fun other member inside => ?_⟩
  · exact before other member (decide_eq_true inside)
  · exact List.filter_eq_nil_iff.mp after other member (decide_eq_true inside)

/-- The only motion under some handles is found under its handle. -/
theorem find?_of_under {animator : Animator} {tick : TickId} {motion : Motion}
    (only : animator.under held = [(tick, motion)]) : animator.find? tick = some motion := by
  obtain ⟨first, rest, split, mine, before, _⟩ := exists_append_of_under only
  refine List.lookup_eq_some_iff.mpr ⟨first, rest, split, fun other member => bne_iff_ne.mpr ?_⟩
  exact fun same => before other member (same ▸ mine)

/-- **A frame steps the only motion under some handles** on the stage that the ones before it leave. -/
theorem running_under {animator : Animator} {tick : TickId} {motion : Motion}
    (only : animator.under held = [(tick, motion)]) (stage : Stage) (delta : Single) :
    let others := animator.entries.takeWhile fun entry => entry.1 ∉ held
    let outcome := motion.step (steps delta others stage).stage delta
    (steps delta animator.entries stage).running.filter (fun entry => entry.1 ∈ held) =
      if outcome.finished then [] else [(tick, outcome.motion)] := by
  obtain ⟨first, rest, split, mine, before, after⟩ := exists_append_of_under only
  have others : animator.entries.takeWhile (fun entry => entry.1 ∉ held) = first := by
    rw [split, List.takeWhile_append_of_pos fun other member => decide_eq_true (before other member)]
    simp [mine]
  dsimp only
  rw [others, split, steps_append]
  dsimp only
  rw [List.filter_append, running_under_of_none before, List.nil_append, steps_cons]
  unfold Frame.record
  split
  · exact running_under_of_none after
  · dsimp only
    rw [List.filter_cons, if_pos (decide_eq_true mine), running_under_of_none after]

end Animator

namespace Bench

variable {bench : Bench}

/-- What is not registered is not registered by others. -/
theorem Sound.motions_others_eq_nil (sound : bench.Sound) (none : bench.motions = []) (doing : Doing) :
    (bench.perform (.others doing)).motions = [] := by
  rcases doing.tick_or_still with ⟨span, rfl⟩ | still
  · show List.filter _ (bench.around.world.tick span).animator.entries = []
    rw [World.entries_tick]
    refine Animator.running_under_of_none fun entry member => ?_
    exact fun inside => List.filter_eq_nil_iff.mp none entry member (decide_eq_true inside)
  · rw [sound.motions_others still, none]

/-- **A frame steps the only motion of the effect** on the stage that the motions before it leave. -/
theorem motions_tick {tick : TickId} {motion : Motion} (only : bench.motions = [(tick, motion)])
    (span : Nat) : (bench.perform (.others (.tick span))).motions =
      let outcome := motion.step (bench.met span) (Span.frames span)
      if outcome.finished then [] else [(tick, outcome.motion)] := by
  show List.filter _ (bench.around.world.tick span).animator.entries = _
  rw [World.entries_tick]
  exact Animator.running_under only _ _

/-- A sprite that is there is there all through the frame. -/
theorem mem_keys_met {sprite : SpriteId} (live : bench.around.world.stage.isLive sprite = true)
    (span : Nat) : sprite ∈ (bench.met span).keys := by
  unfold met
  rw [Animator.thins_steps.keys]
  exact Stage.isLive_iff.mp live

end Bench

end Storybook
