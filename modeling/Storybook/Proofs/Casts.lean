/-
**What holds of a cast all through a play.**

The cast of a player are the characters of the scene that is played. An assertion about the cast and the
world holds all through a play if it survives the few things that a play does to them: something is done
without anything coming onto the stage, a picture comes, a character enters the stage or leaves it, its
effects come further, and a cast is called together or dismissed.

* `Player.cast`: the characters of the scene that is played;
* `Lasts`: the assertion survives all that a play of a story does;
* `Lasts.appear`, `Lasts.enter`, `Lasts.teardown`, ...: it survives what is done with a scene;
* `Lasts.perform`, `Lasts.run`: it holds after every operation, and after every list of operations.
-/

import Storybook.Proofs.Abiding
import Storybook.Proofs.Stances
import Storybook.Proofs.Tables

namespace Storybook

/-- What the binding of effects depends on in the plays of a story. -/
def Story.Document.binder (document : Story.Document) (options : SceneOptions) : Binder :=
  ⟨options.bounceOffset, document.style⟩

/-- What is said of all of a cast is said of it with one of them changed. -/
theorem forall_mem_middle {p : Character → Prop} {front back : List Character}
    {character after : Character} (all : ∀ other ∈ front ++ character :: back, p other)
    (changed : p after) : ∀ other ∈ front ++ after :: back, p other := by
  obtain ⟨ahead, rest⟩ := List.forall_mem_append.mp all
  exact List.forall_mem_append.mpr
    ⟨ahead, List.forall_mem_cons.mpr ⟨changed, (List.forall_mem_cons.mp rest).2⟩⟩

/-- **An assertion about a cast and a world survives** all that a play of a story does. -/
structure Lasts (document : Story.Document) (options : SceneOptions)
    (holds : List Character → World → Prop) : Prop where
  abides : ∀ {cast : List Character} {before after : World}, before.Abides after →
    holds cast before → holds cast after
  pictures : ∀ {cast : List Character} {world : World} (name : String) (texture : Asset.Texture),
    holds cast world → holds cast (world.createSprite (Sprite.ofTexture name texture)).2
  changes : ∀ {front back : List Character} {character : Character} {world : World}
    (bindings : Bindings), bindings.touch.isSome = character.bindings.touch.isSome →
      holds (front ++ character :: back) world →
        holds (front ++ { character with bindings } :: back) world
  leaves : ∀ {front back : List Character} {character : Character} {world : World},
    holds (front ++ character :: back) world →
      holds (front ++ (character.disappear world).1 :: back) (character.disappear world).2
  enters : ∀ {front back : List Character} {character : Character} {world : World}
    {texture : Asset.Texture}, character.sprite = none →
      world.resources.texture? character.spec.image = some texture →
        holds (front ++ character :: back) world →
          holds (front ++ (character.enterStage (document.binder options) texture world).1 :: back)
            (character.enterStage (document.binder options) texture world).2
  begins : ∀ {id : String} {scene : Story.Scene} {world : World}, (id, scene) ∈ document.scenes →
    holds [] world → holds (Scene.cast scene) world
  ends : ∀ {cast : List Character} {world : World}, (∀ character ∈ cast, character.sprite = none) →
    holds cast world → holds [] world

namespace Lasts

variable {document : Story.Document} {options : SceneOptions}
  {holds : List Character → World → Prop} {front back characters : List Character}
  {character : Character} {world : World}

/-! ### Characters -/

theorem appear (lasts : Lasts document options holds)
    (held : holds (front ++ character :: back) world) :
    holds (front ++ (character.appear (document.binder options) world).1 :: back)
      (character.appear (document.binder options) world).2 := by
  have withdrawn : holds (front ++ (character.withdraw world).1 :: back)
      (character.withdraw world).2 := by
    unfold Character.withdraw
    split
    · exact lasts.leaves held
    · exact held
  rw [Character.appear_eq]
  split
  case h_1 texture loaded =>
    refine lasts.enters (character.sprite_withdraw world) ?_ withdrawn
    rw [character.spec_withdraw world, (character.turns_withdraw world).acts.resources]
    exact loaded
  case h_2 => exact lasts.abides (World.abides_remark _ _ _ _) withdrawn

theorem touch (lasts : Lasts document options holds)
    (held : holds (front ++ character :: back) world) :
    holds (front ++ (character.touch world).2.1 :: back) (character.touch world).2.2 := by
  have done : holds (front ++ character :: back) (character.touch world).2.2 :=
    lasts.abides (character.abides_touch world) held
  unfold Character.touch at done ⊢
  split at done
  case h_1 sprite chain stands bound =>
    refine lasts.changes
      { character.bindings with touch := some (chain.fire character.id world).1 } ?_ done
    rw [bound]
    rfl
  case h_2 => exact done

theorem appearEach (lasts : Lasts document options holds) (front : List Character)
    (held : holds (front ++ characters) world) :
    holds (front ++ (Scene.appearEach (document.binder options) characters world).1)
      (Scene.appearEach (document.binder options) characters world).2 := by
  induction characters generalizing front world with
  | nil => exact held
  | cons character rest ih =>
    have appeared := lasts.appear held
    rw [List.append_cons] at appeared
    have all := ih _ appeared
    rw [← List.append_cons] at all
    exact all

theorem disappearEach (lasts : Lasts document options holds) (front : List Character)
    (held : holds (front ++ characters) world) :
    holds (front ++ (Scene.disappearEach characters world).1)
      (Scene.disappearEach characters world).2 := by
  induction characters generalizing front world with
  | nil => exact held
  | cons character rest ih =>
    have left := lasts.leaves held
    rw [List.append_cons] at left
    have all := ih _ left
    rw [← List.append_cons] at all
    exact all

theorem sprite_disappearEach (characters : List Character) (world : World) :
    ∀ character ∈ (Scene.disappearEach characters world).1, character.sprite = none := by
  induction characters generalizing world with
  | nil => exact fun _ member => nomatch member
  | cons character rest ih =>
    intro other member
    rcases List.mem_cons.mp member with rfl | member
    · rfl
    · exact ih _ other member

end Lasts

/-! ### Scenes -/

/-- A scene with the binder of its story, of whose cast an assertion holds. -/
structure Scene.Upholds (binder : Binder) (holds : List Character → World → Prop) (scene : Scene)
    (world : World) : Prop where
  binder : scene.binder = binder
  cast : holds scene.characters world

namespace Lasts

variable {document : Story.Document} {options : SceneOptions}
  {holds : List Character → World → Prop} {scene : Scene} {world after : World}

/-- What is done without anything coming onto the stage keeps up an assertion. -/
theorem abide (lasts : Lasts document options holds)
    (upholds : scene.Upholds (document.binder options) holds world) (abides : world.Abides after) :
    scene.Upholds (document.binder options) holds after :=
  ⟨upholds.binder, lasts.abides abides upholds.cast⟩

theorem drawBackground (lasts : Lasts document options holds)
    (upholds : scene.Upholds (document.binder options) holds world) :
    (scene.drawBackground world).1.Upholds (document.binder options) holds
      (scene.drawBackground world).2 := by
  unfold Scene.drawBackground
  split
  · refine ⟨upholds.binder, ?_⟩
    exact lasts.abides (World.abides_attachSprite _ _) (lasts.pictures _ _ upholds.cast)
  · exact lasts.abide upholds (World.abides_remark _ _ _ _)

theorem enterCharacters (lasts : Lasts document options holds)
    (upholds : scene.Upholds (document.binder options) holds world) :
    (scene.enterCharacters world).1.Upholds (document.binder options) holds
      (scene.enterCharacters world).2 := by
  refine ⟨upholds.binder, ?_⟩
  show holds (Scene.appearEach scene.binder scene.characters world).1
    (Scene.appearEach scene.binder scene.characters world).2
  rw [upholds.binder]
  exact lasts.appearEach [] upholds.cast

theorem setRetriggers (lasts : Lasts document options holds)
    (upholds : scene.Upholds (document.binder options) holds world) :
    (scene.setRetriggers world).1.Upholds (document.binder options) holds
      (scene.setRetriggers world).2 := by
  have set := lasts.abide upholds (scene.abides_setRetriggers world)
  exact ⟨set.binder, set.cast⟩

/-- **The assertion holds of the cast that a scene of the story is entered with.** -/
theorem enter (lasts : Lasts document options holds) {id : String} {spec : Story.Scene}
    (listed : (id, spec) ∈ document.scenes) (held : holds [] world) :
    ((Scene.ofSpec id spec document.style options).enter world).1.Upholds
      (document.binder options) holds
      ((Scene.ofSpec id spec document.style options).enter world).2 := by
  have begun : (Scene.ofSpec id spec document.style options).Upholds (document.binder options) holds
      world := ⟨rfl, lasts.begins listed held⟩
  rw [Scene.enter_eq rfl]
  generalize Scene.ofSpec id spec document.style options = scene at begun ⊢
  have sounding := lasts.abide begun ((World.abides_remark _ _ _ _).trans
    (SoundChain.abides_scheduleAll (SoundChain.roots scene.sounds.links) scene.sounds
      (scene.remarkEntry world)))
  have started : (scene.enterSounds (scene.remarkEntry world)).1.Upholds (document.binder options)
      holds (scene.enterSounds (scene.remarkEntry world)).2 := ⟨sounding.binder, sounding.cast⟩
  have set := lasts.setRetriggers (lasts.enterCharacters (lasts.drawBackground started))
  exact ⟨set.binder, lasts.abides (World.abides_report _ rfl) set.cast⟩

/-- What is done with a character of the scene keeps up an assertion, if it does so for the cast. -/
theorem setCharacter {id : CharacterId} {character next : Character}
    (upholds : scene.Upholds (document.binder options) holds world)
    (found : scene.character? id = some character)
    (does : ∀ front back : List Character, holds (front ++ character :: back) world →
      holds (front ++ next :: back) after) :
    (scene.setCharacter id next).Upholds (document.binder options) holds after := by
  refine ⟨upholds.binder, ?_⟩
  obtain ⟨inside, rfl⟩ := List.getElem?_eq_some_iff.mp found
  have cast := upholds.cast
  show holds (scene.characters.set id.index next) after
  rw [List.set_eq_take_append_cons_drop, if_pos inside]
  apply does
  rw [List.getElem_cons_drop, List.take_append_drop]
  exact cast

theorem retrigger (lasts : Lasts document options holds)
    (upholds : scene.Upholds (document.binder options) holds world) (id : CharacterId) :
    (scene.retrigger id world).1.Upholds (document.binder options) holds
      (scene.retrigger id world).2 := by
  unfold Scene.retrigger
  split
  · split
    case h_1 character found =>
      rw [upholds.binder]
      exact setCharacter upholds found fun _ _ held => lasts.appear held
    case h_2 => exact upholds
  · exact upholds

theorem touchScene (lasts : Lasts document options holds)
    (upholds : scene.Upholds (document.binder options) holds world) (id : CharacterId) :
    (scene.touch id world).2.1.Upholds (document.binder options) holds
      (scene.touch id world).2.2 := by
  unfold Scene.touch
  split
  · split
    case h_1 character found =>
      exact setCharacter upholds found fun _ _ held => lasts.touch held
    case h_2 => exact upholds
  · exact upholds

theorem pointerUpAt (lasts : Lasts document options holds)
    (upholds : scene.Upholds (document.binder options) holds world) (x y : Single) :
    (scene.pointerUpAt x y world).2.1.Upholds (document.binder options) holds
      (scene.pointerUpAt x y world).2.2 := by
  unfold Scene.pointerUpAt Scene.pointerUp
  split
  · split
    · exact lasts.touchScene upholds _
    · exact upholds
  · exact upholds

theorem playSound (lasts : Lasts document options holds)
    (upholds : scene.Upholds (document.binder options) holds world) (link : Nat) :
    (scene.playSound link world).1.Upholds (document.binder options) holds
      (scene.playSound link world).2 := by
  unfold Scene.playSound
  split
  · exact upholds
  · have played := lasts.abide upholds (scene.sounds.abides_play link world)
    exact ⟨played.binder, played.cast⟩

theorem finishSound (lasts : Lasts document options holds)
    (upholds : scene.Upholds (document.binder options) holds world) (playback : PlaybackId) :
    (scene.finish playback world).2.1.Upholds (document.binder options) holds
      (scene.finish playback world).2.2 := by
  have ended := lasts.abide upholds (scene.sounds.abides_finish playback world)
  exact ⟨ended.binder, ended.cast⟩

/-- **Nothing is left of the cast** of a scene that is torn down. -/
theorem teardown (lasts : Lasts document options holds) (stands : scene.state ≠ .tornDown)
    (upholds : scene.Upholds (document.binder options) holds world) :
    holds [] (scene.teardown world).2 := by
  have stopped := lasts.abides ((World.abides_cancelTimers scene.retriggers world).trans
    (scene.sounds.abides_stop _)) upholds.cast
  have gone := lasts.ends (sprite_disappearEach scene.characters _)
    (lasts.disappearEach [] stopped)
  unfold Scene.teardown
  rw [if_neg stands]
  dsimp only
  refine lasts.abides (World.abides_report _ rfl) (lasts.abides (World.abides_remark _ _ _ _) ?_)
  split
  · exact lasts.abides (World.abides_destroySprite _ _) gone
  · exact gone

end Lasts

/-! ### Players -/

namespace Player

/-- The characters of the scene that is played. -/
def cast (player : Player) : List Character :=
  match player.scene with
  | some scene => scene.characters
  | none => []

/-- **A player of a story, of whose cast an assertion holds.** -/
structure Upholds (document : Story.Document) (options : SceneOptions)
    (holds : List Character → World → Prop) (player : Player) : Prop where
  story : player.document = document
  choice : player.options = options
  cast : holds player.cast player.world
  scene : ∀ scene, player.scene = some scene →
    scene.state = .active ∧ scene.binder = document.binder options

end Player

namespace Lasts

variable {document : Story.Document} {options : SceneOptions}
  {holds : List Character → World → Prop} {player : Player} {world : World}

theorem abideAll (lasts : Lasts document options holds)
    (upholds : player.Upholds document options holds) (abides : player.world.Abides world) :
    { player with world }.Upholds document options holds :=
  ⟨upholds.story, upholds.choice, lasts.abides abides upholds.cast, upholds.scene⟩

/-- The scene in play is active, and the assertion holds of its cast. -/
theorem inPlay {scene : Scene} (upholds : player.Upholds document options holds)
    (current : player.scene = some scene) :
    scene.state = .active ∧ scene.Upholds (document.binder options) holds player.world := by
  obtain ⟨active, binder⟩ := upholds.scene scene current
  have cast := upholds.cast
  rw [Player.cast, current] at cast
  exact ⟨active, binder, cast⟩

/-- What becomes of the scene in play, while it stays in play. -/
theorem putScene {scene next : Scene} (upholds : player.Upholds document options holds)
    (current : player.scene = some scene) (title : next.title = scene.title)
    (done : next.Upholds (document.binder options) holds world) :
    { player with world, scene := some next }.Upholds document options holds := by
  refine ⟨upholds.story, upholds.choice, done.cast, fun other same => ?_⟩
  cases same
  exact ⟨(congrArg Prod.snd title).trans (inPlay upholds current).1, done.binder⟩

theorem withScene (upholds : player.Upholds document options holds)
    {change : Scene → World → Scene × World}
    (title : ∀ (scene : Scene) (world : World), (change scene world).1.title = scene.title)
    (does : ∀ (scene : Scene) (world : World), scene.Upholds (document.binder options) holds world →
      (change scene world).1.Upholds (document.binder options) holds (change scene world).2) :
    (player.withScene change).Upholds document options holds := by
  unfold Player.withScene
  split
  case h_1 scene current =>
    exact putScene upholds current (title scene player.world) (does _ _ (inPlay upholds current).2)
  case h_2 => exact upholds

theorem askScene (upholds : player.Upholds document options holds)
    {change : Scene → World → Bool × Scene × World}
    (title : ∀ (scene : Scene) (world : World), (change scene world).2.1.title = scene.title)
    (does : ∀ (scene : Scene) (world : World), scene.Upholds (document.binder options) holds world →
      (change scene world).2.1.Upholds (document.binder options) holds (change scene world).2.2) :
    (player.askScene change).2.Upholds document options holds := by
  unfold Player.askScene
  split
  case h_1 scene current =>
    exact putScene upholds current (title scene player.world) (does _ _ (inPlay upholds current).2)
  case h_2 => exact upholds

theorem dispatch (lasts : Lasts document options holds)
    (upholds : player.Upholds document options holds) (task : Task) :
    (player.dispatch task).Upholds document options holds := by
  cases task with
  | playSound link =>
    exact withScene upholds (fun scene world => scene.title_playSound link world)
      fun _ _ held => lasts.playSound held link
  | startMotion tick motion => exact lasts.abideAll upholds (.of_eq rfl rfl rfl)
  | retrigger id =>
    exact withScene upholds (fun scene world => scene.title_retrigger id world)
      fun _ _ held => lasts.retrigger held id

theorem touchPlayer (lasts : Lasts document options holds)
    (upholds : player.Upholds document options holds) (id : CharacterId) :
    (player.touch id).2.Upholds document options holds :=
  askScene upholds (fun scene world => scene.title_touch id world)
    fun _ _ held => lasts.touchScene held id

theorem touchEach (lasts : Lasts document options holds) (ids : List CharacterId)
    (upholds : player.Upholds document options holds) :
    (Player.touchEach ids player).2.Upholds document options holds := by
  induction ids generalizing player with
  | nil => exact upholds
  | cons id rest ih => exact ih (lasts.touchPlayer upholds id)

/-! ### Scenes come and go -/

/-- Nothing is left of the cast when a scene is left and the splash is cleared. -/
theorem clear (lasts : Lasts document options holds)
    (upholds : player.Upholds document options holds) :
    holds [] player.leaveScene.clearSplash.world ∧ player.leaveScene.clearSplash.scene = none := by
  have left : holds [] player.leaveScene.world ∧ player.leaveScene.scene = none := by
    unfold Player.leaveScene
    split
    case h_1 scene current =>
      obtain ⟨active, scene⟩ := inPlay upholds current
      refine ⟨lasts.teardown ?_ scene, rfl⟩
      rw [active]
      exact SceneState.noConfusion
    case h_2 current =>
      have cast := upholds.cast
      rw [Player.cast, current] at cast
      exact ⟨cast, current⟩
  refine ⟨lasts.abides ?_ left.1, left.2⟩
  unfold Player.clearSplash
  cases player.leaveScene.splashSprite <;> cases player.leaveScene.splashPlayback
  · exact .refl _
  · exact .of_eq rfl rfl rfl
  · exact World.abides_destroySprite _ _
  · exact (World.abides_destroySprite _ _).trans (.of_eq rfl rfl rfl)

theorem shutdown (lasts : Lasts document options holds)
    (upholds : player.Upholds document options holds) :
    player.shutdown.Upholds document options holds := by
  obtain ⟨held, nothing⟩ := lasts.clear upholds
  have same := player.same_clear
  refine ⟨same.document.trans upholds.story, same.options.trans upholds.choice, ?_, ?_⟩
  · show holds player.leaveScene.clearSplash.cast player.leaveScene.clearSplash.world
    rw [Player.cast, nothing]
    exact held
  · intro scene current
    have current : player.leaveScene.clearSplash.scene = some scene := current
    rw [nothing] at current
    cases current

theorem enterSpec (lasts : Lasts document options holds)
    (upholds : player.Upholds document options holds) {id : String} {spec : Story.Scene}
    (found : player.document.scene? id = some spec) :
    (player.enterSpec id spec).Upholds document options holds := by
  have same := player.same_clear
  have story := same.document.trans upholds.story
  have choice := same.options.trans upholds.choice
  rw [upholds.story] at found
  have done := lasts.enter (Table.mem_of_find? found) (lasts.clear upholds).1
  have new : (Scene.ofSpec id spec document.style options).state = .uninitialized := rfl
  have active := (Scene.enter_fst new player.leaveScene.clearSplash.world).1
  unfold Player.enterSpec
  dsimp only
  rw [story, choice]
  refine ⟨rfl, rfl, done.cast, fun other same => ?_⟩
  cases same
  exact ⟨active, done.binder⟩

theorem enterScene (lasts : Lasts document options holds)
    (upholds : player.Upholds document options holds) (id : String) :
    (player.enterScene id).2.Upholds document options holds :=
  Player.enterScene_cases upholds fun _ found => lasts.enterSpec upholds found

/-! ### The splash -/

theorem showSplash (lasts : Lasts document options holds)
    (upholds : player.Upholds document options holds) :
    player.showSplash.Upholds document options holds := by
  unfold Player.showSplash
  dsimp only
  split
  · refine ⟨upholds.story, upholds.choice, ?_, upholds.scene⟩
    exact lasts.abides (World.abides_attachSprite _ _) (lasts.pictures _ _ upholds.cast)
  · exact upholds

theorem start (lasts : Lasts document options holds)
    (upholds : player.Upholds document options holds) :
    player.start.2.Upholds document options holds := by
  have shown := lasts.showSplash upholds
  refine Player.start_cases (fun _ => ?_) (fun _ _ _ => ?_) fun _ _ => ?_
  · exact lasts.abideAll upholds (World.abides_remark _ _ _ _)
  · have played : player.showSplash.world.Abides player.showSplash.playSplash.world := by
      refine World.Abides.trans ?_ (World.abides_report _ rfl)
      refine World.Abides.trans ?_ (World.abides_report _ rfl)
      exact .of_eq rfl rfl rfl
    have done := lasts.abideAll shown played
    exact ⟨done.story, done.choice, done.cast, done.scene⟩
  · have skipped : player.skipSplash.Upholds document options holds :=
      lasts.abideAll shown (World.abides_remark _ _ _ _)
    exact lasts.enterScene skipped _

theorem finish (lasts : Lasts document options holds)
    (upholds : player.Upholds document options holds) (playback : PlaybackId) :
    (player.finish playback).Upholds document options holds := by
  unfold Player.finish
  split
  · have ended : player.endSplash.Upholds document options holds := by
      have other : Event.splashFinished.isArrival = false := rfl
      have done := lasts.abideAll upholds (player.world.abides_report other)
      exact ⟨done.story, done.choice, done.cast, done.scene⟩
    refine Player.leaveSplash_cases (fun _ => ?_) fun _ found => lasts.enterSpec ended found
    exact lasts.abideAll ended (World.abides_remark _ _ _ _)
  · exact withScene upholds (fun _ _ => rfl) fun _ _ held => lasts.finishSound held playback

/-! ### Plays -/

theorem frame (lasts : Lasts document options holds)
    (upholds : player.Upholds document options holds) (span : Nat) :
    (player.frame span).Upholds document options holds := by
  have clocked : { player with world := (player.world.advanceClock span).2 }.Upholds document
      options holds := lasts.abideAll upholds (.of_eq rfl rfl rfl)
  have during : (player.during span (player.due span)).Upholds document options holds :=
    List.foldlRecOn (player.due span) Player.dispatch clocked fun _ held task _ =>
      lasts.dispatch held task
  have taken : { player.during span (player.due span) with
      world := (player.during span (player.due span)).world.takeFinished.2 }.Upholds document
        options holds := lasts.abideAll during (.of_eq rfl rfl rfl)
  have heard : (player.beforeMotions span).Upholds document options holds :=
    List.foldlRecOn (player.ended span) Player.finish taken fun _ held playback _ =>
      lasts.finish held playback
  rw [Player.frame_eq]
  exact lasts.abideAll heard (World.abides_tick _ span)

/-- **The assertion holds after every operation.** -/
theorem perform (lasts : Lasts document options holds)
    (upholds : player.Upholds document options holds) (operation : Operation) :
    (player.perform operation).Upholds document options holds := by
  cases operation with
  | start => exact lasts.start upholds
  | enterScene id => exact lasts.enterScene upholds id
  | frame span => exact lasts.frame upholds span
  | touch character => exact lasts.touchPlayer upholds character
  | touchNamed name =>
    show (player.touchNamed name).2.Upholds document options holds
    unfold Player.touchNamed
    split
    · exact lasts.touchEach _ upholds
    · exact upholds
  | pointerUpAt x y =>
    exact askScene upholds (fun scene world => scene.title_pointerUpAt x y world)
      fun _ _ held => lasts.pointerUpAt held x y
  | render viewport =>
    refine lasts.abideAll upholds ⟨rfl, .of_eq rfl, ?_⟩
    dsimp only
    split
    · exact .refl _
    · exact .of_eq rfl fun _ => rfl
  | destroy sprite => exact lasts.abideAll upholds (World.abides_destroySprite _ sprite)
  | shutdown => exact lasts.shutdown upholds

/-- **The assertion holds all through a play**, if it holds when the story is loaded. -/
theorem run (lasts : Lasts document options holds)
    {resources : Asset.Resources} {audio : Audio} {viewport : Viewport}
    (begins : holds [] (Player.ofResources document resources audio viewport options).world)
    (operations : List Operation) :
    ((Player.ofResources document resources audio viewport options).run operations).Upholds document
      options holds := by
  have loaded : (Player.ofResources document resources audio viewport options).Upholds document
      options holds := ⟨rfl, rfl, begins, nofun⟩
  exact List.foldlRecOn operations Player.perform loaded fun _ held operation _ =>
    lasts.perform held operation

end Lasts

end Storybook
