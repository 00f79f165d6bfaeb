/-
**Time passes in frames alone.**

Timers are set and cancelled wherever effects run and scenes come and go, but the clock that they are
measured by moves only when a frame says so, and by what the frame says. At every moment the timers stand
in the order in which they are handed out.

* `TimerQueue.Halts`: between two states of a queue no time passes, and its timers stay in order;
* `Character.halts_appear`, `SoundChain.halts_play`, `Scene.halts_enter`, ...: what takes no time;
* `Operation.span`, `Operation.elapsed`: the time that operations take;
* `Player.now_perform`, `Player.now_run`: a play takes that time, and no other;
* `Player.ordered_run`: after every play, the timers stand in order.
-/

import Storybook.Proofs.Queue
import Storybook.Proofs.Stances

namespace Storybook

/-! ### Queues -/

namespace TimerQueue

/-- **Between the two states of a queue no time passes**, and its timers stay in order. -/
structure Halts (before after : TimerQueue Task) : Prop where
  now : after.now = before.now
  ordered : Timer.Ordered before.timers → Timer.Ordered after.timers

variable {first second third : TimerQueue Task}

theorem Halts.refl (queue : TimerQueue Task) : queue.Halts queue :=
  ⟨rfl, id⟩

theorem Halts.trans (left : first.Halts second) (right : second.Halts third) : first.Halts third :=
  ⟨right.now.trans left.now, right.ordered ∘ left.ordered⟩

theorem halts_insert (queue : TimerQueue Task) (delay : Nat) (period : Option Period) (task : Task) :
    queue.Halts (queue.insert delay period task).2 :=
  ⟨rfl, fun ordered => ordered_insert ordered delay period task⟩

theorem halts_cancel (queue : TimerQueue Task) (id : TimerId) : queue.Halts (queue.cancel id).2 :=
  ⟨rfl, fun ordered => ordered_cancel ordered id⟩

end TimerQueue

theorem World.halts_cancelTimers (timers : List TimerId) (world : World) :
    world.timers.Halts (timers.foldl cancelTimer world).timers :=
  List.foldlRecOn (motive := fun middle : World => world.timers.Halts middle.timers) timers cancelTimer
    (.refl _) fun middle halts timer _ => halts.trans (middle.timers.halts_cancel timer)

/-! ### Effects -/

namespace Effect

theorem halts_silence (sound : String) (world : World) :
    world.timers.Halts (silence sound world).timers := by
  unfold silence
  split <;> exact .refl _

theorem halts_execute (effect : Effect) (world : World) :
    world.timers.Halts (effect.execute world).2.timers := by
  cases effect with
  | audio sound => exact halts_silence sound world
  | move sprite velocity pause state =>
    show world.timers.Halts (state.execute sprite velocity pause world).2.timers
    unfold MoveState.execute
    split
    · unfold MoveState.start
      split
      · exact .refl _
      · exact world.timers.halts_insert _ _ _
    · exact .refl _
  | bounce sprite offset => exact .refl _
  | transition sprite image texture => exact .refl _
  | fadeOut sprite speed state =>
    show world.timers.Halts (state.execute sprite speed world).2.timers
    unfold FadeState.execute
    split <;> exact .refl _
  | spin sprite speed state => cases state <;> exact .refl _

theorem halts_cancel (effect : Effect) (world : World) :
    world.timers.Halts (effect.cancel world).2.timers := by
  cases effect with
  | audio sound => exact halts_silence sound world
  | move sprite velocity pause state =>
    cases state with
    | idle => exact .refl _
    | pending timer tick => exact world.timers.halts_cancel timer
    | moving tick => exact .refl _
  | bounce sprite offset => exact .refl _
  | transition sprite image texture => exact .refl _
  | fadeOut sprite speed state => cases state <;> exact .refl _
  | spin sprite speed state => cases state <;> exact .refl _

end Effect

namespace Chain

theorem halts_fireEach (trigger : Trigger) (character : CharacterId) (effects : List Effect) :
    ∀ world : World, world.timers.Halts (fireEach trigger character effects world).2.timers := by
  induction effects with
  | nil => exact fun world => .refl _
  | cons effect rest ih =>
    intro world
    have runs := effect.halts_execute (world.report (.effectExecuted character trigger effect.kind))
    exact runs.trans (ih _)

theorem halts_cancelEach (effects : List Effect) :
    ∀ world : World, world.timers.Halts (cancelEach effects world).2.timers := by
  induction effects with
  | nil => exact fun world => .refl _
  | cons effect rest ih => exact fun world => (effect.halts_cancel world).trans (ih _)

end Chain

theorem Bindings.halts_cancelChain (chain : Option Chain) (world : World) :
    world.timers.Halts (cancelChain chain world).timers := by
  cases chain with
  | none => exact .refl _
  | some chain => exact Chain.halts_cancelEach chain.effects world

/-! ### Characters -/

namespace Character

theorem halts_disappear (character : Character) (world : World) :
    world.timers.Halts (character.disappear world).2.timers := by
  have cancelled : world.timers.Halts (character.bindings.cancel world).timers :=
    (Bindings.halts_cancelChain _ world).trans (Bindings.halts_cancelChain _ _)
  unfold disappear
  cases character.gravity <;> cases character.sprite <;> exact cancelled

theorem halts_withdraw (character : Character) (world : World) :
    world.timers.Halts (character.withdraw world).2.timers := by
  unfold withdraw
  split
  · exact character.halts_disappear world
  · exact .refl _

theorem halts_fireOnLoad (character : Character) (world : World) :
    world.timers.Halts (character.fireOnLoad world).2.timers := by
  unfold fireOnLoad
  split
  · exact .refl _
  · exact Chain.halts_fireEach _ _ _ world

theorem halts_startGravity (character : Character) (sprite : SpriteId) (world : World) :
    world.timers.Halts (character.startGravity sprite world).2.timers := by
  unfold startGravity
  dsimp only
  split <;> exact .refl _

theorem halts_enterStage (character : Character) (binder : Binder) (texture : Asset.Texture)
    (world : World) : world.timers.Halts (character.enterStage binder texture world).2.timers := by
  let made := world.createSprite (newSprite character.spec texture)
  let bound := binder.bind character.spec made.1 made.2
  let shown := ((bound.world.reportAll (bound.skipped.map (.effectSkipped character.name))).attachSprite
    made.1).report (.characterShown character.id character.name)
  let dressed := character.dressed made.1 bound.bindings
  have still : shown.timers = world.timers :=
    (character.still_show bound.world made.1 bound.skipped).2.trans
      (binder.fresh_bind character.spec made.1 made.2).timers
  have fires : world.timers.Halts (dressed.fireOnLoad shown).2.timers :=
    still ▸ dressed.halts_fireOnLoad shown
  exact fires.trans (halts_startGravity _ _ _)

theorem halts_appear (character : Character) (binder : Binder) (world : World) :
    world.timers.Halts (character.appear binder world).2.timers := by
  have withdrawn := character.halts_withdraw world
  rw [appear_eq]
  split
  · exact withdrawn.trans (halts_enterStage _ binder _ _)
  · exact withdrawn

theorem halts_touch (character : Character) (world : World) :
    world.timers.Halts (character.touch world).2.2.timers := by
  unfold touch
  split
  · exact Chain.halts_fireEach _ _ _ world
  · exact .refl _

end Character

/-! ### Sounds -/

namespace SoundChain

theorem halts_scheduleAll (links : List Nat) : ∀ (chain : SoundChain) (world : World),
    world.timers.Halts (chain.scheduleAll links world).2.timers := by
  induction links with
  | nil => exact fun _ world => .refl _
  | cons link rest ih =>
    intro chain world
    have first : world.timers.Halts (chain.schedule link world).2.timers :=
      world.timers.halts_insert _ none _
    exact first.trans (ih _ _)

theorem halts_play (chain : SoundChain) (link : Nat) (world : World) :
    world.timers.Halts (chain.play link world).2.timers := by
  unfold play
  dsimp only
  split
  · exact .refl _
  · split <;> exact .refl _

theorem halts_finish (chain : SoundChain) (playback : PlaybackId) (world : World) :
    world.timers.Halts (chain.finish playback world).2.2.timers := by
  unfold finish
  split
  · exact .refl _
  · exact halts_scheduleAll _ _ world

theorem halts_stop (chain : SoundChain) (world : World) :
    world.timers.Halts (chain.stop world).2.timers :=
  World.halts_cancelTimers chain.pending world

end SoundChain

/-! ### Scenes -/

namespace Scene

theorem halts_appearEach (binder : Binder) (characters : List Character) :
    ∀ world : World, world.timers.Halts (appearEach binder characters world).2.timers := by
  induction characters with
  | nil => exact fun world => .refl _
  | cons character rest ih => exact fun world => (character.halts_appear binder world).trans (ih _)

theorem halts_disappearEach (characters : List Character) :
    ∀ world : World, world.timers.Halts (disappearEach characters world).2.timers := by
  induction characters with
  | nil => exact fun world => .refl _
  | cons character rest ih => exact fun world => (character.halts_disappear world).trans (ih _)

theorem halts_retriggerEach (span : Nat) (ids : List CharacterId) :
    ∀ world : World, world.timers.Halts (retriggerEach span ids world).2.timers := by
  induction ids with
  | nil => exact fun world => .refl _
  | cons id rest ih =>
    intro world
    have first : world.timers.Halts (world.timers.repeatEvery span (.retrigger id)).2 :=
      world.timers.halts_insert _ _ _
    exact first.trans (ih { world with timers := (world.timers.repeatEvery span (.retrigger id)).2 })

theorem halts_drawBackground (scene : Scene) (world : World) :
    world.timers.Halts (scene.drawBackground world).2.timers := by
  unfold drawBackground
  split <;> exact .refl _

theorem halts_setRetriggers (scene : Scene) (world : World) :
    world.timers.Halts (scene.setRetriggers world).2.timers := by
  obtain ⟨remarks, same⟩ := scene.remarkRetriggered_eq world
  unfold setRetriggers
  rw [same]
  exact halts_retriggerEach _ _ { world with remarks }

/-- **The entry of a scene takes no time.** -/
theorem halts_enter {scene : Scene} (new : scene.state = .uninitialized) (world : World) :
    world.timers.Halts (scene.enter world).2.timers := by
  let begun := scene.enterSounds (scene.remarkEntry world)
  let drawn := begun.1.drawBackground begun.2
  let dressed := drawn.1.enterCharacters drawn.2
  have sounds : world.timers.Halts begun.2.timers :=
    SoundChain.halts_scheduleAll _ _ (scene.remarkEntry world)
  have draws : world.timers.Halts drawn.2.timers := sounds.trans (begun.1.halts_drawBackground _)
  have appears : world.timers.Halts dressed.2.timers := draws.trans (halts_appearEach _ _ _)
  rw [enter_eq new]
  exact appears.trans (dressed.1.halts_setRetriggers dressed.2)

theorem halts_teardown (scene : Scene) (world : World) :
    world.timers.Halts (scene.teardown world).2.timers := by
  unfold teardown
  split
  · exact .refl _
  · have stopped := (World.halts_cancelTimers scene.retriggers world).trans (scene.sounds.halts_stop _)
    have left := stopped.trans (halts_disappearEach scene.characters _)
    cases scene.background <;> exact left

theorem halts_retrigger (scene : Scene) (id : CharacterId) (world : World) :
    world.timers.Halts (scene.retrigger id world).2.timers := by
  unfold retrigger
  split
  · split
    · exact Character.halts_appear _ _ world
    · exact .refl _
  · exact .refl _

theorem halts_playSound (scene : Scene) (link : Nat) (world : World) :
    world.timers.Halts (scene.playSound link world).2.timers := by
  unfold playSound
  split
  · exact .refl _
  · exact scene.sounds.halts_play link world

theorem halts_touch (scene : Scene) (id : CharacterId) (world : World) :
    world.timers.Halts (scene.touch id world).2.2.timers := by
  unfold touch
  split
  · split
    · exact Character.halts_touch _ world
    · exact .refl _
  · exact .refl _

theorem halts_pointerUpAt (scene : Scene) (x y : Single) (world : World) :
    world.timers.Halts (scene.pointerUpAt x y world).2.2.timers := by
  unfold pointerUpAt pointerUp
  split
  · split
    · exact scene.halts_touch _ world
    · exact .refl _
  · exact .refl _

end Scene

/-! ### Operations -/

namespace Operation

/-- Whether an operation is a frame. -/
def isFrame : Operation → Bool
  | frame _ => true
  | _ => false

/-- The time that passes in an operation. -/
def span : Operation → Nat
  | frame span => span
  | _ => 0

/-- The time that passes in a list of operations. -/
def elapsed : List Operation → Nat
  | [] => 0
  | operation :: rest => operation.span + elapsed rest

end Operation

namespace Player

variable {player next : Player}

/-- What is handed to the scene takes no time, if the scene does it in none. -/
theorem halts_withScene {change : Scene → World → Scene × World}
    (halts : ∀ (scene : Scene) (world : World), world.timers.Halts (change scene world).2.timers)
    (player : Player) : player.world.timers.Halts (player.withScene change).world.timers := by
  unfold withScene
  split
  · exact halts _ player.world
  · exact .refl _

theorem halts_askScene {change : Scene → World → Bool × Scene × World}
    (halts : ∀ (scene : Scene) (world : World), world.timers.Halts (change scene world).2.2.timers)
    (player : Player) : player.world.timers.Halts (player.askScene change).2.world.timers := by
  unfold askScene
  split
  · exact halts _ player.world
  · exact .refl _

/-! ### Scenes come and go -/

theorem halts_clear (player : Player) :
    player.world.timers.Halts player.leaveScene.clearSplash.world.timers := by
  have left : player.world.timers.Halts player.leaveScene.world.timers := by
    unfold leaveScene
    split
    · exact Scene.halts_teardown _ player.world
    · exact .refl _
  have cleared : player.leaveScene.world.timers.Halts player.leaveScene.clearSplash.world.timers := by
    unfold clearSplash
    cases player.leaveScene.splashSprite <;> cases player.leaveScene.splashPlayback <;> exact .refl _
  exact left.trans cleared

theorem halts_enterSpec (player : Player) (id : String) (spec : Story.Scene) :
    player.world.timers.Halts (player.enterSpec id spec).world.timers := by
  have new : (Scene.ofSpec id spec player.leaveScene.clearSplash.document.style
      player.leaveScene.clearSplash.options).state = .uninitialized := rfl
  exact player.halts_clear.trans (Scene.halts_enter new _)

theorem halts_enterScene (player : Player) (id : String) :
    player.world.timers.Halts (player.enterScene id).2.world.timers := by
  let same (next : Player) := player.world.timers.Halts next.world.timers
  exact enterScene_cases (motive := same) (.refl _) fun spec _ => player.halts_enterSpec id spec

theorem halts_start (player : Player) : player.world.timers.Halts player.start.2.world.timers := by
  have shown : player.world.timers.Halts player.showSplash.world.timers := by
    rw [showSplash_eq]
    exact .refl _
  let same (next : Player) := player.world.timers.Halts next.world.timers
  exact start_cases (motive := same) (fun _ => .refl _) (fun _ _ _ => shown) fun _ _ =>
    shown.trans (player.skipSplash.halts_enterScene _)

/-! ### Frames -/

theorem halts_dispatch (player : Player) (task : Task) :
    player.world.timers.Halts (player.dispatch task).world.timers := by
  cases task with
  | playSound link => exact halts_withScene (fun scene => scene.halts_playSound link) player
  | startMotion tick motion => exact .refl _
  | retrigger id => exact halts_withScene (fun scene => scene.halts_retrigger id) player

theorem halts_finish (player : Player) (playback : PlaybackId) :
    player.world.timers.Halts (player.finish playback).world.timers := by
  let same (next : Player) := player.world.timers.Halts next.world.timers
  unfold finish
  split
  · exact leaveSplash_cases (motive := same) (fun _ => .refl _) fun spec _ =>
      player.endSplash.halts_enterSpec _ spec
  · exact halts_withScene (fun scene => scene.sounds.halts_finish playback) player

/-- The time of a frame has passed when its tasks begin, and no more passes in it. -/
theorem halts_frame (player : Player) (span : Nat) :
    (player.world.timers.advance span).2.Halts (player.frame span).world.timers := by
  let begun := { player with world := (player.world.advanceClock span).2 }
  let same (middle : Player) := begun.world.timers.Halts middle.world.timers
  have dispatched : same (player.during span (player.due span)) :=
    List.foldlRecOn (motive := same) (player.due span) dispatch (.refl _) fun middle halts task _ =>
      halts.trans (middle.halts_dispatch task)
  have ended : same (player.beforeMotions span) :=
    List.foldlRecOn (motive := same) (player.ended span) Player.finish dispatched
      fun middle halts playback _ => halts.trans (middle.halts_finish playback)
  rw [frame_eq]
  show begun.world.timers.Halts ((player.beforeMotions span).world.tick span).timers
  rw [World.timers_tick]
  exact ended

/-! ### All operations -/

theorem halts_touch (player : Player) (id : CharacterId) :
    player.world.timers.Halts (player.touch id).2.world.timers :=
  halts_askScene (fun scene => scene.halts_touch id) player

theorem halts_touchEach (ids : List CharacterId) :
    ∀ player : Player, player.world.timers.Halts (touchEach ids player).2.world.timers := by
  induction ids with
  | nil => exact fun player => .refl _
  | cons id rest ih => exact fun player => (player.halts_touch id).trans (ih _)

/-- **What is done between frames takes no time.** -/
theorem halts_perform (player : Player) {operation : Operation} (between : operation.isFrame = false) :
    player.world.timers.Halts (player.perform operation).world.timers := by
  cases operation with
  | start => exact player.halts_start
  | enterScene id => exact player.halts_enterScene id
  | frame span => cases between
  | touch id => exact player.halts_touch id
  | touchNamed name =>
    show player.world.timers.Halts (player.touchNamed name).2.world.timers
    unfold touchNamed
    split
    · exact halts_touchEach _ player
    · exact .refl _
  | pointerUpAt x y => exact halts_askScene (fun scene => scene.halts_pointerUpAt x y) player
  | render viewport => exact .refl _
  | destroy sprite => exact .refl _
  | shutdown => exact player.halts_clear

/-- **Time passes in frames alone**, and as much as they say. -/
theorem now_perform (player : Player) (operation : Operation) :
    (player.perform operation).world.timers.now = player.world.timers.now + operation.span := by
  cases operation with
  | frame span => exact (player.halts_frame span).now
  | _ => exact (player.halts_perform rfl).now

/-- **A play takes the time of its frames.** -/
theorem now_run (operations : List Operation) (player : Player) :
    (player.run operations).world.timers.now =
      player.world.timers.now + Operation.elapsed operations := by
  induction operations generalizing player with
  | nil => rfl
  | cons operation rest ih =>
    show ((player.perform operation).run rest).world.timers.now = _
    rw [ih, now_perform, Operation.elapsed, Nat.add_assoc]

theorem ordered_perform (ordered : Timer.Ordered player.world.timers.timers) (operation : Operation) :
    Timer.Ordered (player.perform operation).world.timers.timers := by
  cases operation with
  | frame span => exact (player.halts_frame span).ordered (TimerQueue.ordered_advance ordered span)
  | _ => exact (player.halts_perform rfl).ordered ordered

/-- **After every play, the timers stand in order.** -/
theorem ordered_run (document : Story.Document) (resources : Asset.Resources) (audio : Audio)
    (viewport : Viewport) (options : SceneOptions) (operations : List Operation) :
    Timer.Ordered ((ofResources document resources audio viewport options).run
      operations).world.timers.timers :=
  List.foldlRecOn (motive := fun player : Player => Timer.Ordered player.world.timers.timers) operations
    perform .nil fun _ ordered operation _ => ordered_perform ordered operation

end Player

end Storybook
