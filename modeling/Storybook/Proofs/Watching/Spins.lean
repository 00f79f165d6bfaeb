/-
**A spin is a faithful switch.**

What a spin says of itself and what the animator says of it are two copies of one fact. Both change when it
runs and when it is called off. In between others do what they do, and frames pass; but they never touch the
motion of a spin whose sprite is there. So the two copies always agree: the spin is on when it has run an odd
number of times since it was called off last, and then it has one motion, else it has none.

* `SpinState.motions`: what a spin has registered by its own account;
* `Bench.Spins`: the account is right;
* `Bench.Spins.execute`, `Bench.Spins.cancel`, `Bench.Spins.others`: it stays so, whatever happens;
* `Bench.Spins.run_idle`: a spin that is off leaves the world alone;
* `Bench.toggles`: every run.
-/

import Storybook.Proofs.Watching.Bench

namespace Storybook

/-- What a spin has registered, by its own account. -/
def SpinState.motions (sprite : SpriteId) (speed : Single) : SpinState → List (TickId × Motion)
  | idle => []
  | active tick => [(tick, .spin sprite speed)]

namespace Deed

/-- How often an effect has run since it was called off, after one more deed. -/
def count (turns : Nat) : Deed → Nat
  | execute => turns + 1
  | cancel => 0
  | others _ => turns

/-- **How often an effect has run since it was called off last**, or since it was made. -/
def turns (deeds : List Deed) : Nat :=
  deeds.foldl count 0

end Deed

/-! ### One deed -/

/-- A spin does not end while its sprite is there, and it stays the same. -/
theorem Motion.step_spin {sprite : SpriteId} {stage : Stage} (live : sprite ∈ stage.keys)
    (speed delta : Single) :
    ((Motion.spin sprite speed).step stage delta).finished = false ∧
      ((Motion.spin sprite speed).step stage delta).motion = .spin sprite speed := by
  unfold step
  dsimp only [Motion.sprite]
  cases found : stage.find? sprite with
  | none => exact absurd live (find?_eq_none_iff.mp found)
  | some there => exact ⟨rfl, rfl⟩

namespace Bench

variable {bench : Bench} {sprite : SpriteId} {speed : Single} {state : SpinState} {tick : TickId}

/-- **The account of a spin is right**: what it says it has registered is what it has registered. -/
structure Spins (sprite : SpriteId) (speed : Single) (state : SpinState) (bench : Bench) : Prop where
  sound : bench.Sound
  effect : bench.effect = .spin sprite speed state
  motions : bench.motions = state.motions sprite speed

namespace Spins

/-- A spin that turns on registers one motion. -/
theorem execute_idle (spins : Spins sprite speed .idle bench) :
    ∃ tick, Spins sprite speed (.active tick) (bench.perform .execute) := by
  have sound := spins.sound.perform .execute
  rw [perform_execute spins.effect] at sound ⊢
  refine ⟨_, sound, rfl, ?_⟩
  refine (spins.sound.under_register (.spin sprite speed)).trans ?_
  rw [spins.motions]
  rfl

/-- A spin that turns off has taken out its motion. -/
theorem execute_active (spins : Spins sprite speed (.active tick) bench) :
    Spins sprite speed .idle (bench.perform .execute) := by
  have sound := spins.sound.perform .execute
  rw [perform_execute spins.effect] at sound ⊢
  exact ⟨sound, rfl, Animator.under_deregister_only _ spins.motions⟩

/-- So has a spin that is called off. -/
theorem cancel (spins : Spins sprite speed state bench) :
    Spins sprite speed .idle (bench.perform .cancel) := by
  have sound := spins.sound.perform .cancel
  rw [perform_cancel spins.effect] at sound ⊢
  refine ⟨sound, rfl, ?_⟩
  cases state with
  | idle => exact spins.motions
  | active tick => exact Animator.under_deregister_only _ spins.motions

/-- **Others do not touch the motion of a spin**, nor does a frame while the sprite is there. -/
theorem others (spins : Spins sprite speed state bench) (doing : Doing)
    (live : bench.around.world.stage.isLive sprite = true) :
    Spins sprite speed state (bench.perform (.others doing)) := by
  refine ⟨spins.sound.perform (.others doing), spins.effect, ?_⟩
  rcases doing.tick_or_still with ⟨span, rfl⟩ | still
  · cases state with
    | idle => exact spins.sound.motions_others_eq_nil spins.motions _
    | active tick =>
      obtain ⟨goesOn, same⟩ := Motion.step_spin (mem_keys_met live span) speed (Span.frames span)
      rw [motions_tick spins.motions]
      dsimp only
      rw [goesOn, same]
      rfl
  · rw [spins.sound.motions_others still, spins.motions]

/-- Whether a spin is on follows the number of times that it has run. -/
theorem perform (spins : Spins sprite speed state bench) (deed : Deed)
    (live : bench.around.world.stage.isLive sprite = true) {turns : Nat}
    (counted : state = .idle ↔ turns % 2 = 0) :
    ∃ after, Spins sprite speed after (bench.perform deed) ∧
      (after = .idle ↔ deed.count turns % 2 = 0) := by
  cases deed with
  | execute =>
    show ∃ after, Spins sprite speed after _ ∧ (after = .idle ↔ (turns + 1) % 2 = 0)
    cases state with
    | idle =>
      obtain ⟨tick, on⟩ := spins.execute_idle
      have even := counted.mp rfl
      exact ⟨_, on, nofun, fun still => by omega⟩
    | active tick =>
      have odd : ¬ turns % 2 = 0 := fun even => nomatch counted.mpr even
      exact ⟨_, spins.execute_active, fun _ => by omega, fun _ => rfl⟩
  | cancel => exact ⟨_, spins.cancel, fun _ => rfl, fun _ => rfl⟩
  | others doing => exact ⟨state, spins.others doing live, counted⟩

/-! ### Every run -/

/-- **The account of a spin stays right**, whatever happens. -/
theorem run (spins : Spins sprite speed state bench) {turns : Nat} (counted : state = .idle ↔ turns % 2 = 0)
    {deeds : List Deed} (lives : bench.Lives sprite deeds) :
    ∃ after, Spins sprite speed after (bench.run deeds) ∧
      (after = .idle ↔ deeds.foldl Deed.count turns % 2 = 0) := by
  induction deeds generalizing bench state turns with
  | nil => exact ⟨state, spins, counted⟩
  | cons deed rest ih =>
    obtain ⟨after, next, counted⟩ := spins.perform deed lives.now counted
    exact ih next counted lives.later

/-- **A spin that is off leaves the world alone** until it runs again: others do what they would do
without it. -/
theorem run_idle (spins : Spins sprite speed .idle bench) {later : List Deed}
    (rests : .execute ∉ later) : Spins sprite speed .idle (bench.run later) ∧
      (bench.run later).around = bench.around.run (later.filterMap Deed.doing?) := by
  induction later generalizing bench with
  | nil => exact ⟨spins, rfl⟩
  | cons deed rest ih =>
    obtain ⟨this, others⟩ := List.ne_and_not_mem_of_not_mem_cons rests
    cases deed with
    | execute => exact absurd rfl this
    | cancel =>
      have same : (bench.perform .cancel).around = bench.around := by
        rw [perform_cancel spins.effect]
        rfl
      obtain ⟨off, alone⟩ := ih spins.cancel others
      rw [same] at alone
      exact ⟨off, alone⟩
    | others doing =>
      have off : Spins sprite speed .idle (bench.perform (.others doing)) :=
        ⟨spins.sound.perform _, spins.effect, spins.sound.motions_others_eq_nil spins.motions doing⟩
      exact ih off others

/-- **A spin that turns off sets its sprite upright.** -/
theorem upright (spins : Spins sprite speed (.active tick) bench)
    (live : bench.around.world.stage.isLive sprite = true) :
    ∃ there, (bench.perform .execute).around.world.stage.find? sprite = some there ∧
      there.rotation = 0 := by
  obtain ⟨there, found⟩ := Option.isSome_iff_exists.mp live
  refine ⟨{ there with rotation := 0 }, ?_, rfl⟩
  rw [perform_execute spins.effect]
  show (bench.around.world.stage.modify sprite _).find? sprite = _
  rw [Stage.find?_modify, found, Option.map_some, if_pos rfl]

end Spins

/-- **A spin is a faithful switch.** -/
structure Toggles (sprite : SpriteId) (speed : Single) (turns : Nat) (bench : Bench) : Prop where
  /-- It is on when it has run an odd number of times, and else it is off. -/
  odd : (∃ tick, bench.effect = .spin sprite speed (.active tick)) ↔ turns % 2 = 1
  even : bench.effect = .spin sprite speed .idle ↔ turns % 2 = 0
  /-- While it is on, it has registered one motion, under the handle that it holds. -/
  on : ∀ tick, bench.effect = .spin sprite speed (.active tick) →
    bench.motions = [(tick, .spin sprite speed)] ∧
      bench.around.world.animator.find? tick = some (.spin sprite speed)
  /-- While it is off, it has registered none. -/
  off : bench.effect = .spin sprite speed .idle → bench.motions = []
  single : bench.motions.length ≤ 1
  /-- When it turns off, its sprite is upright. From then on, until it runs again, everything is as if it
  were not there. -/
  upright : ∀ tick, bench.effect = .spin sprite speed (.active tick) →
    let stopped := bench.perform .execute
    stopped.effect = .spin sprite speed .idle ∧
      (∃ there, stopped.around.world.stage.find? sprite = some there ∧ there.rotation = 0) ∧
      ∀ later, .execute ∉ later → (stopped.run later).motions = [] ∧
        (stopped.run later).around = stopped.around.run (later.filterMap Deed.doing?)

theorem Spins.isSwitch (spins : Spins sprite speed state bench) {turns : Nat}
    (counted : state = .idle ↔ turns % 2 = 0)
    (live : bench.around.world.stage.isLive sprite = true) : Toggles sprite speed turns bench := by
  have effect := spins.effect
  cases state with
  | idle =>
    have even := counted.mp rfl
    refine ⟨⟨fun ⟨tick, on⟩ => ?_, fun odd => by omega⟩, ⟨fun _ => even, fun _ => effect⟩,
      fun tick on => ?_, fun _ => spins.motions, ?_, fun tick on => ?_⟩
    · cases effect.symm.trans on
    · cases effect.symm.trans on
    · exact spins.motions ▸ Nat.zero_le 1
    · cases effect.symm.trans on
  | active tick =>
    have odd : ¬ turns % 2 = 0 := fun even => nomatch counted.mpr even
    refine ⟨⟨fun _ => by omega, fun _ => ⟨tick, effect⟩⟩, ⟨fun off => ?_, fun even => absurd even odd⟩,
      fun other on => ?_, fun off => ?_, ?_, fun other on => ?_⟩
    · cases effect.symm.trans off
    · cases effect.symm.trans on
      exact ⟨spins.motions, Animator.find?_of_under spins.motions⟩
    · cases effect.symm.trans off
    · exact spins.motions ▸ Nat.le_refl 1
    · cases effect.symm.trans on
      have stopped := spins.execute_active
      refine ⟨stopped.effect, spins.upright live, fun later rests => ?_⟩
      obtain ⟨off, alone⟩ := stopped.run_idle rests
      exact ⟨off.motions, alone⟩

/-- **Whatever happens to a spin and around it, it is a faithful switch**, as long as its sprite is there.
It may be made at any time, and others may have done anything before. -/
theorem toggles (viewport : Viewport) (resources : Asset.Resources) (audio : Audio) (before : List Doing)
    (sprite : SpriteId) (speed : Single) (deeds : List Deed) :
    let bench := watch (.spin sprite speed .idle)
      ((Surroundings.initial viewport resources audio).run before)
    bench.Lives sprite deeds → Toggles sprite speed (Deed.turns deeds) (bench.run deeds) := by
  intro bench lives
  have apart := Surroundings.apart_run (Surroundings.apart_initial viewport resources audio) before
  have made : Spins sprite speed .idle bench :=
    ⟨sound_watch nofun apart rfl, rfl, List.filter_eq_nil_iff.mpr nofun⟩
  have fresh : SpinState.idle = .idle ↔ 0 % 2 = 0 := ⟨fun _ => rfl, fun _ => rfl⟩
  obtain ⟨state, spins, counted⟩ := made.run fresh lives
  exact spins.isSwitch counted lives.last

/-- A mill on a stage. -/
def millStage : Stage where
  issued := 1
  sprites := [(⟨1⟩, .ofTexture "mill.png" ⟨20, 50⟩)]
  order := [⟨1⟩]
  viewport := ⟨200, 200⟩

/-- A mill that already turns is turned on, called off, turned on, off and on again. Its last motion is
registered under the fourth handle, next to the one that was there before. -/
theorem toggles_mill :
    let before : List Doing := [.arrange millStage, .build (.spin 3) 100 ⟨1⟩, .execute 0]
    let deeds : List Deed := [.execute, .others (.tick 50000000), .cancel, .execute,
      .others (.tick 50000000), .execute, .execute]
    let bench := watch (.spin ⟨1⟩ 2 .idle)
      ((Surroundings.initial ⟨200, 200⟩ .empty (.silent 500 [])).run before)
    bench.Lives ⟨1⟩ deeds ∧ Toggles ⟨1⟩ 2 3 (bench.run deeds) ∧
      (bench.run deeds).around.world.animator.entries =
        [(⟨1⟩, .spin ⟨1⟩ 3), (⟨4⟩, .spin ⟨1⟩ 2)] := by
  intro before deeds bench
  have lives : bench.Lives ⟨1⟩ deeds := by decide +kernel
  exact ⟨lives, toggles _ _ _ before ⟨1⟩ 2 deeds lives, by decide +kernel⟩

end Bench

end Storybook
