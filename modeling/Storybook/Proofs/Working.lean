/-
**What is done while a scene is played.**

Effects, characters and sounds change the stage, the motions, the timers and the voices. They leave the
assets alone, they make no remark on an error, and what they report is no milestone: the milestones of
a play are that it is loaded, that its splash begins and ends, and that scenes are entered and torn down.

* `Event.isMilestone`: the milestones;
* `World.Works`: between two worlds only such things were done;
* `Character.works_appear`, `Scene.works_retrigger`, `Scene.works_touch`, ...: what works in this way;
* `Scene.enter_eq`: the parts of the entry of a scene;
* `Scene.works_enter`, `Scene.works_teardown`: the beginning and the end of a scene do, but for one
  milestone each.
-/

import Storybook.Proofs.Holding.Quiet

namespace Storybook

/-- An event that tells how far a play has come. -/
def Event.isMilestone : Event → Bool
  | .storyLoaded _ => true
  | .splashShown => true
  | .splashFinished => true
  | .sceneEntered _ => true
  | .sceneTornDown _ => true
  | _ => false

namespace World

/-- Between the two worlds the assets stay, no milestone is reported, and there is no remark on an
error. -/
structure Works (before after : World) : Prop where
  resources : after.resources = before.resources
  events : Reports (fun event => event.isMilestone = false) before after
  remarks : ∃ new, after.remarks.toList = before.remarks.toList ++ new ∧
    ∀ remark ∈ new, remark.level ≠ .error

variable {first second third : World}

theorem Works.of_eq (resources : second.resources = first.resources)
    (events : second.events = first.events) (remarks : second.remarks = first.remarks) :
    first.Works second :=
  ⟨resources, .of_eq events, [], by rw [remarks, List.append_nil], nofun⟩

theorem Works.refl (world : World) : world.Works world :=
  .of_eq rfl rfl rfl

theorem Works.trans (left : first.Works second) (right : second.Works third) :
    first.Works third := by
  obtain ⟨earlier, before, mild⟩ := left.remarks
  obtain ⟨later, after, calm⟩ := right.remarks
  refine ⟨right.resources.trans left.resources, left.events.trans right.events, earlier ++ later, ?_,
    List.forall_mem_append.mpr ⟨mild, calm⟩⟩
  rw [after, before, List.append_assoc]

theorem works_report (world : World) {event : Event} (small : event.isMilestone = false) :
    world.Works (world.report event) :=
  ⟨rfl, world.reports_report small, [], (List.append_nil _).symm, nofun⟩

theorem works_reportAll (world : World) {events : List Event}
    (small : ∀ event ∈ events, event.isMilestone = false) : world.Works (world.reportAll events) := by
  have same := world.reportAll_eq events
  refine ⟨?_, world.reports_reportAll events small, [], ?_, nofun⟩
  · rw [same]
  · rw [same, List.append_nil]

theorem works_remark (world : World) {level : Level} (mild : level ≠ .error) (speaker : Speaker)
    (text : String) : world.Works (world.remark level speaker text) :=
  ⟨rfl, .of_eq rfl, [⟨level, speaker, text⟩], by simp [remark], by simpa using mild⟩

theorem works_warn (world : World) (speaker : Speaker) (text : String) :
    world.Works (world.remark .warn speaker text) :=
  world.works_remark (by decide) speaker text

theorem works_info (world : World) (speaker : Speaker) (text : String) :
    world.Works (world.remark .info speaker text) :=
  world.works_remark (by decide) speaker text

theorem works_cancelTimers (timers : List TimerId) (world : World) :
    world.Works (timers.foldl cancelTimer world) := by
  rw [cancelTimers_eq]
  exact .of_eq rfl rfl rfl

theorem works_playSound (world : World) (sound : String) :
    world.Works (world.playSound sound).2 := by
  have played : world.Works { world with audio := (world.audio.play sound).2 } := .of_eq rfl rfl rfl
  exact played.trans (works_report _ rfl)

theorem works_tick (world : World) (span : Nat) : world.Works (world.tick span) := by
  have moved : world.Works { world with
      animator := (world.animator.tick world.stage (Span.frames span)).2.1
      stage := (world.animator.tick world.stage (Span.frames span)).2.2 } := .of_eq rfl rfl rfl
  refine moved.trans (works_reportAll _ fun event member => ?_)
  obtain ⟨entry, _, ended⟩ := List.mem_flatMap.mp member
  unfold finishedEvents at ended
  split at ended
  · rcases List.mem_cons.mp ended with rfl | last
    · rfl
    · exact List.mem_singleton.mp last ▸ rfl
  · exact List.mem_singleton.mp ended ▸ rfl

end World

/-! ### Effects -/

namespace Effect

theorem works_silence (sound : String) (world : World) : world.Works (silence sound world) := by
  unfold silence
  split
  · exact .of_eq rfl rfl rfl
  · exact .refl world

theorem works_execute (effect : Effect) (world : World) : world.Works (effect.execute world).2 := by
  cases effect with
  | audio sound => exact (works_silence sound world).trans (World.works_playSound _ sound)
  | move sprite velocity pause state =>
    show world.Works (state.execute sprite velocity pause world).2
    unfold MoveState.execute
    split
    · unfold MoveState.start
      split <;> exact .of_eq rfl rfl rfl
    · exact .refl world
  | bounce sprite offset => exact .of_eq rfl rfl rfl
  | transition sprite image texture => exact .of_eq rfl rfl rfl
  | fadeOut sprite speed state =>
    show world.Works (state.execute sprite speed world).2
    unfold FadeState.execute
    split
    · exact .of_eq rfl rfl rfl
    · exact .refl world
  | spin sprite speed state => cases state <;> exact .of_eq rfl rfl rfl

theorem works_cancel (effect : Effect) (world : World) : world.Works (effect.cancel world).2 := by
  cases effect with
  | audio sound => exact works_silence sound world
  | move sprite velocity pause state => cases state <;> exact .of_eq rfl rfl rfl
  | bounce sprite offset => exact .refl world
  | transition sprite image texture => exact .refl world
  | fadeOut sprite speed state => cases state <;> exact .of_eq rfl rfl rfl
  | spin sprite speed state => cases state <;> exact .of_eq rfl rfl rfl

end Effect

namespace Chain

theorem works_fireEach (trigger : Trigger) (character : CharacterId) (effects : List Effect) :
    ∀ world : World, world.Works (fireEach trigger character effects world).2 := by
  induction effects with
  | nil => exact fun world => .refl world
  | cons effect rest ih =>
    intro world
    exact ((world.works_report rfl).trans (effect.works_execute _)).trans (ih _)

theorem works_cancelEach (effects : List Effect) :
    ∀ world : World, world.Works (cancelEach effects world).2 := by
  induction effects with
  | nil => exact fun world => .refl world
  | cons effect rest ih => exact fun world => (effect.works_cancel world).trans (ih _)

end Chain

namespace Bindings

theorem works_cancelChain (chain : Option Chain) (world : World) :
    world.Works (cancelChain chain world) := by
  cases chain with
  | none => exact .refl world
  | some chain => exact Chain.works_cancelEach chain.effects world

theorem works_cancel (bindings : Bindings) (world : World) : world.Works (bindings.cancel world) :=
  (works_cancelChain bindings.onLoad world).trans (works_cancelChain bindings.touch _)

end Bindings

namespace Binder

theorem works_remarkSkipped (name : String) (trigger : Trigger) (skipped : List SkippedEffect) :
    ∀ world : World, world.Works (skipped.foldl (remarkSkipped name trigger) world) := by
  induction skipped with
  | nil => exact fun world => .refl world
  | cons effect rest ih => exact fun world => (world.works_warn _ _).trans (ih _)

theorem works_bindAction (binder : Binder) (name : String) (sprite : SpriteId) (bound : Bound)
    (action : String × List Story.Effect) :
    bound.world.Works (binder.bindAction name sprite bound action).world := by
  unfold bindAction
  split
  · exact bound.world.works_warn _ _
  · rename_i trigger _
    have told := works_remarkSkipped name trigger
      (unusable (action.2.map (Effect.build bound.world.resources binder.offset sprite))) bound.world
    dsimp only
    split
    · exact told.trans (.of_eq rfl rfl rfl)
    · exact told

theorem works_bind (binder : Binder) (character : Story.Character) (sprite : SpriteId)
    (world : World) : world.Works (binder.bind character sprite world).world := by
  have each : ∀ (actions : List (String × List Story.Effect)) (bound : Bound),
      bound.world.Works (actions.foldl (binder.bindAction character.name sprite) bound).world := by
    intro actions
    induction actions with
    | nil => exact fun bound => .refl bound.world
    | cons action rest ih =>
      exact fun bound => (binder.works_bindAction character.name sprite bound action).trans (ih _)
  exact each character.actions ⟨.none, [], world⟩

end Binder

/-! ### Characters -/

namespace Character

theorem works_disappear (character : Character) (world : World) :
    world.Works (character.disappear world).2 := by
  have cancelled := character.bindings.works_cancel world
  unfold disappear
  cases character.gravity <;> cases character.sprite <;>
    exact cancelled.trans (.of_eq rfl rfl rfl)

theorem works_fireOnLoad (character : Character) (world : World) :
    world.Works (character.fireOnLoad world).2 := by
  unfold fireOnLoad
  split
  · exact .refl world
  · exact Chain.works_fireEach _ _ _ world

theorem works_startGravity (character : Character) (sprite : SpriteId) (world : World) :
    world.Works (character.startGravity sprite world).2 := by
  unfold startGravity
  dsimp only
  split
  · exact .refl world
  · exact .of_eq rfl rfl rfl

theorem works_enterStage (character : Character) (binder : Binder) (texture : Asset.Texture)
    (world : World) : world.Works (character.enterStage binder texture world).2 := by
  have created : world.Works (world.createSprite (newSprite character.spec texture)).2 :=
    .of_eq rfl rfl rfl
  have dressed := created.trans (binder.works_bind character.spec
    (world.createSprite (newSprite character.spec texture)).1 _)
  unfold enterStage
  dsimp only
  generalize binder.bind character.spec (world.createSprite (newSprite character.spec texture)).1
    (world.createSprite (newSprite character.spec texture)).2 = bound at dressed ⊢
  have told : bound.world.Works
      (bound.world.reportAll (bound.skipped.map (.effectSkipped character.name))) :=
    World.works_reportAll _ (List.forall_mem_map.mpr fun _ _ => rfl)
  have shown : ∀ (world : World) (sprite : SpriteId), world.Works
      ((world.attachSprite sprite).report (.characterShown character.id character.name)) := by
    intro world sprite
    have drawn : world.Works (world.attachSprite sprite) := .of_eq rfl rfl rfl
    exact drawn.trans (World.works_report _ rfl)
  have stands := (dressed.trans told).trans
    (shown _ (world.createSprite (newSprite character.spec texture)).1)
  exact (stands.trans (works_fireOnLoad _ _)).trans (works_startGravity _ _ _)

theorem works_appear (character : Character) (binder : Binder) (world : World) :
    world.Works (character.appear binder world).2 := by
  have withdrawn : world.Works (character.withdraw world).2 := by
    unfold withdraw
    split
    · exact character.works_disappear world
    · exact .refl world
  rw [appear_eq]
  split
  · exact withdrawn.trans (works_enterStage _ binder _ _)
  · exact withdrawn.trans (World.works_warn _ _ _)

theorem works_touch (character : Character) (world : World) :
    world.Works (character.touch world).2.2 := by
  unfold touch
  split
  · exact Chain.works_fireEach _ _ _ world
  · exact .refl world

end Character

/-! ### Sounds -/

namespace SoundChain

theorem works_scheduleAll (links : List Nat) :
    ∀ (chain : SoundChain) (world : World), world.Works (chain.scheduleAll links world).2 := by
  induction links with
  | nil => exact fun chain world => .refl world
  | cons link rest ih =>
    intro chain world
    have scheduled : world.Works (chain.schedule link world).2 := .of_eq rfl rfl rfl
    exact scheduled.trans (ih _ _)

theorem works_play (chain : SoundChain) (link : Nat) (world : World) :
    world.Works (chain.play link world).2 := by
  unfold play
  dsimp only
  split
  · exact world.works_warn _ _
  · rename_i sound _
    have set : world.Works
        { world with audio := world.audio.setVolume sound.file sound.volume } := .of_eq rfl rfl rfl
    split <;> exact set.trans (World.works_playSound _ sound.file)

theorem works_finish (chain : SoundChain) (playback : PlaybackId) (world : World) :
    world.Works (chain.finish playback world).2.2 := by
  unfold finish
  split
  · exact .refl world
  · exact works_scheduleAll _ _ world

theorem works_stop (chain : SoundChain) (world : World) : world.Works (chain.stop world).2 :=
  (World.works_cancelTimers chain.pending world).trans (.of_eq rfl rfl rfl)

end SoundChain

/-! ### Scenes -/

namespace Scene

theorem works_appearEach (binder : Binder) (characters : List Character) :
    ∀ world : World, world.Works (appearEach binder characters world).2 := by
  induction characters with
  | nil => exact fun world => .refl world
  | cons character rest ih => exact fun world => (character.works_appear binder world).trans (ih _)

theorem works_disappearEach (characters : List Character) :
    ∀ world : World, world.Works (disappearEach characters world).2 := by
  induction characters with
  | nil => exact fun world => .refl world
  | cons character rest ih => exact fun world => (character.works_disappear world).trans (ih _)

theorem works_drawBackground (scene : Scene) (world : World) :
    world.Works (scene.drawBackground world).2 := by
  unfold drawBackground
  split
  · exact .of_eq rfl rfl rfl
  · exact world.works_warn _ _

theorem works_setRetriggers (scene : Scene) (world : World) :
    world.Works (scene.setRetriggers world).2 := by
  have told : world.Works (scene.remarkRetriggered world) := by
    unfold remarkRetriggered
    split
    · dsimp only
      split
      · exact world.works_warn _ _
      · exact .refl world
    · exact .refl world
  unfold setRetriggers
  rw [retriggerEach_eq]
  exact told.trans (.of_eq rfl rfl rfl)

theorem works_retrigger (scene : Scene) (id : CharacterId) (world : World) :
    world.Works (scene.retrigger id world).2 := by
  unfold retrigger
  split
  · split
    · exact Character.works_appear _ _ world
    · exact .refl world
  · exact .refl world

theorem works_playSound (scene : Scene) (link : Nat) (world : World) :
    world.Works (scene.playSound link world).2 := by
  unfold playSound
  split
  · exact .refl world
  · exact scene.sounds.works_play link world

theorem works_touch (scene : Scene) (id : CharacterId) (world : World) :
    world.Works (scene.touch id world).2.2 := by
  unfold touch
  split
  · split
    · exact Character.works_touch _ world
    · exact .refl world
  · exact .refl world

theorem works_pointerUpAt (scene : Scene) (x y : Single) (world : World) :
    world.Works (scene.pointerUpAt x y world).2.2 := by
  unfold pointerUpAt
  split
  · unfold pointerUp
    split
    · exact scene.works_touch _ world
    · exact .refl world
  · exact .refl world

/-! ### Entering and tearing down -/

/-- The first part of the entry of a scene: its sounds start. -/
def enterSounds (scene : Scene) (world : World) : Scene × World :=
  let (sounds, world) := scene.sounds.start world
  ({ scene with sounds }, world)

/-- The third part, after the background: its characters appear. -/
def enterCharacters (scene : Scene) (world : World) : Scene × World :=
  let (characters, world) := appearEach scene.binder scene.characters world
  ({ scene with characters }, world)

/-- The last part: it is active. -/
def activate (scene : Scene) (world : World) : Scene × World :=
  ({ scene with state := .active }, world.report (.sceneEntered scene.id))

/-- The remark on an entry. -/
def remarkEntry (scene : Scene) (world : World) : World :=
  world.remark .info .scene s!"Entering scene '{scene.id}' ({scene.characters.length} characters)"

/-- The entry of a scene, part by part. -/
theorem enter_eq {scene : Scene} (new : scene.state = .uninitialized) (world : World) :
    scene.enter world =
      let (scene, world) := scene.enterSounds (scene.remarkEntry world)
      let (scene, world) := scene.drawBackground world
      let (scene, world) := scene.enterCharacters world
      let (scene, world) := scene.setRetriggers world
      scene.activate world := by
  unfold enter
  rw [if_pos new]
  rfl

theorem id_drawBackground (scene : Scene) (world : World) :
    (scene.drawBackground world).1.id = scene.id := by
  unfold drawBackground
  split <;> rfl

/-- The beginning of a scene, but for its milestone. -/
theorem works_enter {scene : Scene} (new : scene.state = .uninitialized) (world : World) :
    ∃ middle, world.Works middle ∧ (scene.enter world).2 = middle.report (.sceneEntered scene.id) := by
  have told : world.Works (scene.remarkEntry world) := world.works_info _ _
  have started : world.Works (scene.enterSounds (scene.remarkEntry world)).2 :=
    told.trans (SoundChain.works_scheduleAll _ _ _)
  rw [enter_eq new]
  dsimp only
  generalize sounding : scene.enterSounds (scene.remarkEntry world) = begun at started ⊢
  have named : begun.1.id = scene.id := sounding ▸ rfl
  have drawn := started.trans (begun.1.works_drawBackground begun.2)
  have painted := (begun.1.id_drawBackground begun.2).trans named
  generalize begun.1.drawBackground begun.2 = set at drawn painted ⊢
  have dressed : world.Works (set.1.enterCharacters set.2).2 :=
    drawn.trans (works_appearEach set.1.binder set.1.characters set.2)
  refine ⟨_, dressed.trans (works_setRetriggers (set.1.enterCharacters set.2).1 _), ?_⟩
  exact congrArg (fun id => World.report _ (.sceneEntered id)) painted

/-- The scene that is entered is active, under its id. -/
theorem enter_fst {scene : Scene} (new : scene.state = .uninitialized) (world : World) :
    (scene.enter world).1.state = .active ∧ (scene.enter world).1.id = scene.id := by
  rw [enter_eq new]
  exact ⟨rfl, id_drawBackground _ _⟩

/-- The end of a scene, but for its milestone. -/
theorem works_teardown {scene : Scene} (stands : scene.state ≠ .tornDown) (world : World) :
    ∃ middle, world.Works middle ∧
      (scene.teardown world).2 = middle.report (.sceneTornDown scene.id) := by
  unfold teardown
  rw [if_neg stands]
  refine ⟨_, ?_, rfl⟩
  have stopped := (World.works_cancelTimers scene.retriggers world).trans (scene.sounds.works_stop _)
  have gone := stopped.trans (works_disappearEach scene.characters _)
  cases scene.background with
  | none => exact gone.trans (World.works_info _ _ _)
  | some sprite =>
    have destroyed : ∀ world : World, world.Works (world.destroySprite sprite) :=
      fun world => .of_eq rfl rfl rfl
    exact (gone.trans (destroyed _)).trans (World.works_info _ _ _)

end Scene

end Storybook
