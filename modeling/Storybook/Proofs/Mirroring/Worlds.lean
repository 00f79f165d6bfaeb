/-
**Worlds that mirror each other.**

One world mirrors another if it holds the same sprites, motions and timers under handles that are ahead
by a lag, and its clock is ahead too. Sounds do not matter, but for the number of handles that were given
out for them, nor do remarks or the size of the stage. What is done in both worlds is then the same, up
to the names of the handles.

* `World.Mirrors`: the relation;
* `World.Mirrors.createSprite`, `World.Mirrors.registerMotion`, `World.Mirrors.schedule`, ...: what is done
  keeps it, and the handles that are given out are those of the other world, renamed.
-/

import Mathlib.Data.List.Basic
import Storybook.Proofs.Renaming

namespace Storybook

/-! ### Lagging handles -/

namespace Lag

variable {lag : Lag}

theorem sprite_inj {first second : SpriteId} :
    lag.names.sprite first = lag.names.sprite second ↔ first = second := by
  cases first
  cases second
  simp [names]

theorem tick_inj {first second : TickId} :
    lag.names.tick first = lag.names.tick second ↔ first = second := by
  cases first
  cases second
  simp [names]

theorem timer_inj {first second : TimerId} :
    lag.names.timer first = lag.names.timer second ↔ first = second := by
  cases first
  cases second
  simp [names]

/-- An entry of a list of sprites, under the handle of the play that is ahead. -/
def sprite (lag : Lag) (entry : SpriteId × Sprite) : SpriteId × Sprite :=
  (lag.names.sprite entry.1, entry.2)

/-- An entry of a list of motions, in the play that is ahead. -/
def motion (lag : Lag) (entry : TickId × Motion) : TickId × Motion :=
  (lag.names.tick entry.1, entry.2.rename lag.names)

/-- A timer in the play that is ahead. -/
def timer (lag : Lag) (timer : Timer Task) : Timer Task :=
  ⟨lag.names.timer timer.id, timer.due + lag.time, timer.period, timer.task.rename lag.names⟩

theorem before_timer (first second : Timer Task) :
    (lag.timer first).before (lag.timer second) = first.before second := by
  simp [Timer.before, timer, names]

/-- A timer takes the same place in the play that is ahead. -/
theorem enqueue_timer (timer : Timer Task) (timers : List (Timer Task)) :
    (lag.timer timer).enqueue (timers.map lag.timer) = (timer.enqueue timers).map lag.timer := by
  induction timers with
  | nil => rfl
  | cons other rest ih =>
    rw [List.map_cons, Timer.enqueue, Timer.enqueue, before_timer]
    split
    · rw [List.map_cons, ih]
    · rfl

theorem lookup_sprite (sprites : List (SpriteId × Sprite)) (id : SpriteId) :
    (sprites.map lag.sprite).lookup (lag.names.sprite id) = sprites.lookup id := by
  induction sprites with
  | nil => rfl
  | cons entry rest ih =>
    obtain ⟨other, sprite⟩ := entry
    have same : (lag.names.sprite id == lag.names.sprite other) = (id == other) := by
      rw [Bool.eq_iff_iff, beq_iff_eq, beq_iff_eq]
      exact sprite_inj
    show List.lookup _ ((lag.names.sprite other, sprite) :: rest.map lag.sprite) = _
    rw [List.lookup_cons, List.lookup_cons, same, ih]

end Lag

/-- A world mirrors another one, with a lag, and after some events of its own. -/
structure World.Mirrors (lag : Lag) (past : List Event) (first second : World) : Prop where
  resources : second.resources = first.resources
  spritesIssued : second.stage.issued = first.stage.issued + lag.sprites
  sprites : second.stage.sprites = first.stage.sprites.map lag.sprite
  order : second.stage.order = first.stage.order.map lag.names.sprite
  ticksIssued : second.animator.issued = first.animator.issued + lag.ticks
  motions : second.animator.entries = first.animator.entries.map lag.motion
  timersIssued : second.timers.issued = first.timers.issued + lag.timers
  now : second.timers.now = first.timers.now + lag.time
  timers : second.timers.timers = first.timers.timers.map lag.timer
  playbacksIssued : second.audio.issued = first.audio.issued + lag.playbacks
  events : second.events.toList = past ++ first.events.toList.map (Event.rename lag.names)

namespace World.Mirrors

variable {lag : Lag} {past : List Event} {first second : World}

/-! ### Looking at the worlds -/

theorem find? (mirrors : first.Mirrors lag past second) (id : SpriteId) :
    second.stage.find? (lag.names.sprite id) = first.stage.find? id := by
  unfold Stage.find?
  rw [mirrors.sprites, Lag.lookup_sprite]

theorem isAttached (mirrors : first.Mirrors lag past second) (id : SpriteId) :
    second.stage.isAttached (lag.names.sprite id) = first.stage.isAttached id := by
  unfold Stage.isAttached
  rw [Bool.eq_iff_iff, List.contains_iff_mem, List.contains_iff_mem, mirrors.order, List.mem_map]
  simp only [Lag.sprite_inj, exists_eq_right]

theorem canAttach (mirrors : first.Mirrors lag past second) (id : SpriteId) :
    second.stage.canAttach (lag.names.sprite id) = first.stage.canAttach id := by
  unfold Stage.canAttach Stage.isLive
  rw [mirrors.find?, mirrors.isAttached]

theorem isRegistered (mirrors : first.Mirrors lag past second) (id : TickId) :
    second.animator.isRegistered (lag.names.tick id) = first.animator.isRegistered id := by
  unfold Animator.isRegistered
  rw [mirrors.motions, List.any_map]
  simp only [Function.comp_def, Lag.motion, Lag.tick_inj]

theorem isPending (mirrors : first.Mirrors lag past second) (id : TimerId) :
    second.timers.isPending (lag.names.timer id) = first.timers.isPending id := by
  unfold TimerQueue.isPending
  rw [mirrors.timers, List.any_map]
  simp only [Function.comp_def, Lag.timer, Lag.timer_inj]

theorem drawn (mirrors : first.Mirrors lag past second) :
    second.stage.drawn = first.stage.drawn.map lag.sprite := by
  unfold Stage.drawn
  rw [mirrors.order, List.filterMap_map, List.map_filterMap]
  refine List.filterMap_congr fun id _ => ?_
  rw [Function.comp_apply, mirrors.find?, Option.map_map]
  rfl

theorem waits (mirrors : first.Mirrors lag past second) :
    second.timers.waits = first.timers.waits.map (Wait.rename lag.names) := by
  unfold TimerQueue.waits
  rw [mirrors.timers, mirrors.now, List.map_map, List.map_map]
  refine List.map_congr_left fun timer _ => ?_
  simp [Lag.timer, Wait.rename, Nat.add_sub_add_right]

/-! ### Events and remarks -/

theorem remark (mirrors : first.Mirrors lag past second) (level level' : Level)
    (speaker speaker' : Speaker) (text text' : String) :
    (first.remark level speaker text).Mirrors lag past (second.remark level' speaker' text') :=
  { mirrors with }

theorem report (mirrors : first.Mirrors lag past second) (event : Event) :
    (first.report event).Mirrors lag past (second.report (event.rename lag.names)) :=
  { mirrors with
    events := by
      show (second.events.push _).toList = past ++ (first.events.push event).toList.map _
      rw [Array.toList_push, Array.toList_push, mirrors.events, List.map_append, List.append_assoc]
      rfl }

theorem reportAll (events : List Event) :
    ∀ {first second : World}, first.Mirrors lag past second →
      (first.reportAll events).Mirrors lag past
        (second.reportAll (events.map (Event.rename lag.names))) := by
  induction events with
  | nil => exact fun mirrors => mirrors
  | cons event rest ih => exact fun mirrors => ih (mirrors.report event)

/-! ### Sprites -/

theorem createSprite (mirrors : first.Mirrors lag past second) (sprite : Sprite) :
    (second.createSprite sprite).1 = lag.names.sprite (first.createSprite sprite).1 ∧
      (first.createSprite sprite).2.Mirrors lag past (second.createSprite sprite).2 := by
  have id : (⟨second.stage.issued + 1⟩ : SpriteId) = lag.names.sprite ⟨first.stage.issued + 1⟩ := by
    rw [mirrors.spritesIssued, Nat.add_right_comm]
    rfl
  refine ⟨id, { mirrors with spritesIssued := ?_, sprites := ?_ }⟩
  · exact (congrArg (· + 1) mirrors.spritesIssued).trans (Nat.add_right_comm _ _ _)
  · show second.stage.sprites ++ [(⟨second.stage.issued + 1⟩, sprite)] =
      List.map lag.sprite (first.stage.sprites ++ [(⟨first.stage.issued + 1⟩, sprite)])
    rw [id, mirrors.sprites, List.map_append]
    rfl

theorem attachSprite (mirrors : first.Mirrors lag past second) (id : SpriteId) :
    (first.attachSprite id).Mirrors lag past (second.attachSprite (lag.names.sprite id)) := by
  unfold World.attachSprite Stage.attach
  rw [mirrors.canAttach]
  split
  · refine { mirrors with order := ?_ }
    show second.stage.order ++ [lag.names.sprite id] = (first.stage.order ++ [id]).map _
    rw [mirrors.order, List.map_append]
    rfl
  · exact mirrors

theorem modifySprite (mirrors : first.Mirrors lag past second) (id : SpriteId)
    (change : Sprite → Sprite) :
    (first.modifySprite id change).Mirrors lag past
      (second.modifySprite (lag.names.sprite id) change) := by
  refine { mirrors with sprites := ?_ }
  show second.stage.sprites.map _ = (first.stage.sprites.map _).map lag.sprite
  rw [mirrors.sprites, List.map_map, List.map_map]
  refine List.map_congr_left fun entry _ => ?_
  simp [Lag.sprite, Lag.sprite_inj]

/-! ### Motions -/

/-- The next handle for a motion. -/
theorem nextTick (mirrors : first.Mirrors lag past second) :
    (⟨second.animator.issued + 1⟩ : TickId) = lag.names.tick ⟨first.animator.issued + 1⟩ := by
  rw [mirrors.ticksIssued, Nat.add_right_comm]
  rfl

theorem reserve (mirrors : first.Mirrors lag past second) :
    second.animator.reserve.1 = lag.names.tick first.animator.reserve.1 ∧
      { first with animator := first.animator.reserve.2 }.Mirrors lag past
        { second with animator := second.animator.reserve.2 } := by
  refine ⟨mirrors.nextTick, { mirrors with ticksIssued := ?_ }⟩
  exact (congrArg (· + 1) mirrors.ticksIssued).trans (Nat.add_right_comm _ _ _)

theorem registerMotion (mirrors : first.Mirrors lag past second) (motion : Motion) :
    (second.registerMotion (motion.rename lag.names)).1 =
        lag.names.tick (first.registerMotion motion).1 ∧
      (first.registerMotion motion).2.Mirrors lag past
        (second.registerMotion (motion.rename lag.names)).2 := by
  refine ⟨mirrors.nextTick, { mirrors with ticksIssued := ?_, motions := ?_ }⟩
  · exact (congrArg (· + 1) mirrors.ticksIssued).trans (Nat.add_right_comm _ _ _)
  · show second.animator.entries ++ [(⟨second.animator.issued + 1⟩, motion.rename lag.names)] =
      List.map lag.motion (first.animator.entries ++ [(⟨first.animator.issued + 1⟩, motion)])
    rw [mirrors.nextTick, mirrors.motions, List.map_append]
    rfl

theorem deregisterMotion (mirrors : first.Mirrors lag past second) (id : TickId) :
    (first.deregisterMotion id).Mirrors lag past (second.deregisterMotion (lag.names.tick id)) := by
  refine { mirrors with motions := ?_ }
  show second.animator.entries.filter _ = (first.animator.entries.filter _).map lag.motion
  rw [mirrors.motions, List.filter_map]
  refine congrArg (List.map lag.motion) (List.filter_congr fun entry _ => ?_)
  simp [Lag.motion, Lag.tick_inj]

/-! ### Timers -/

/-- A timer is added in both queues. -/
theorem insert (mirrors : first.Mirrors lag past second) (delay : Nat) (period : Option Period)
    (task : Task) :
    (second.timers.insert delay period (task.rename lag.names)).1 =
        lag.names.timer (first.timers.insert delay period task).1 ∧
      { first with timers := (first.timers.insert delay period task).2 }.Mirrors lag past
        { second with
          timers := (second.timers.insert delay period (task.rename lag.names)).2 } := by
  have id : (⟨second.timers.issued + 1⟩ : TimerId) = lag.names.timer ⟨first.timers.issued + 1⟩ := by
    rw [mirrors.timersIssued, Nat.add_right_comm]
    rfl
  have timer : (⟨⟨second.timers.issued + 1⟩, second.timers.now + delay, period,
      task.rename lag.names⟩ : Timer Task) =
      lag.timer ⟨⟨first.timers.issued + 1⟩, first.timers.now + delay, period, task⟩ := by
    rw [id, mirrors.now, Nat.add_right_comm]
    rfl
  refine ⟨id, { mirrors with timersIssued := ?_, timers := ?_ }⟩
  · exact (congrArg (· + 1) mirrors.timersIssued).trans (Nat.add_right_comm _ _ _)
  · show Timer.enqueue _ second.timers.timers = _
    rw [timer, mirrors.timers]
    exact Lag.enqueue_timer _ _

theorem schedule (mirrors : first.Mirrors lag past second) (delay : Nat) (task : Task) :
    (second.schedule delay (task.rename lag.names)).1 =
        lag.names.timer (first.schedule delay task).1 ∧
      (first.schedule delay task).2.Mirrors lag past
        (second.schedule delay (task.rename lag.names)).2 :=
  mirrors.insert delay none task

/-! ### Sounds -/

theorem playSound (mirrors : first.Mirrors lag past second) (sound : String) :
    (first.playSound sound).2.Mirrors lag past (second.playSound sound).2 := by
  have id : (⟨second.audio.issued + 1⟩ : PlaybackId) =
      lag.names.playback ⟨first.audio.issued + 1⟩ := by
    rw [mirrors.playbacksIssued, Nat.add_right_comm]
    rfl
  have played : { first with audio := (first.audio.play sound).2 }.Mirrors lag past
      { second with audio := (second.audio.play sound).2 } :=
    { mirrors with playbacksIssued :=
        (congrArg (· + 1) mirrors.playbacksIssued).trans (Nat.add_right_comm _ _ _) }
  have told := played.report (.soundStarted sound ⟨first.audio.issued + 1⟩)
  unfold World.playSound
  show World.Mirrors _ _ _ (World.report _ (.soundStarted sound ⟨second.audio.issued + 1⟩))
  rw [id]
  exact told

/-- Whether a voice is stopped does not matter. -/
theorem silence (mirrors : first.Mirrors lag past second) (sound : String) :
    (Effect.silence sound first).Mirrors lag past (Effect.silence sound second) := by
  unfold Effect.silence
  split <;> split <;> exact { mirrors with }

end World.Mirrors

end Storybook
