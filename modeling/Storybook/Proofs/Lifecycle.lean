/-
**The course of a play.**

Whatever is done with a player, and in whichever order, its milestones follow the protocol of a
chronicle, and its phase, its splash and its scene are those of the moment that the chronicle has come
to. A story that was read has its start scene, so that it always starts.

* `World.Tells`: the milestones that are reported between two worlds;
* `Player.moment`: how far a play has come;
* `Player.Lives`: the invariant, with `Player.Lives.goesOn` for what keeps it;
* `Player.Lives.perform`, `Player.Lives.run`: every operation, and every list of operations;
* `Player.follows_protocol`: every play of a story that was read.
-/

import Storybook.Proofs.Chronicle
import Storybook.Proofs.Stances
import Storybook.Story.Reading

namespace Storybook

/-! ### Milestones -/

namespace World

/-- Between the two worlds some milestones are reported, in order, and there is no remark on an
error. -/
structure Tells (told : List Event) (before after : World) : Prop where
  events : ∃ new, after.events.toList = before.events.toList ++ new ∧
    new.filter Event.isMilestone = told
  remarks : ∃ new, after.remarks.toList = before.remarks.toList ++ new ∧
    ∀ remark ∈ new, remark.level ≠ .error

variable {earlier later : List Event} {first second third : World}

theorem Works.tells (works : first.Works second) : first.Tells [] second := by
  obtain ⟨new, added, small⟩ := works.events
  refine ⟨⟨new, added, List.filter_eq_nil_iff.mpr fun event member => ?_⟩, works.remarks⟩
  rw [small event member]
  exact Bool.false_ne_true

theorem tells_report (world : World) {event : Event} (milestone : event.isMilestone = true) :
    world.Tells [event] (world.report event) := by
  refine ⟨⟨[event], by simp [report], by simp [milestone]⟩, [], ?_, nofun⟩
  exact (List.append_nil _).symm

theorem Tells.trans (left : first.Tells earlier second) (right : second.Tells later third) :
    first.Tells (earlier ++ later) third := by
  obtain ⟨⟨before, begun, told⟩, ⟨mild, remarked, calm⟩⟩ := left
  obtain ⟨⟨after, ended, toldLater⟩, ⟨mildLater, remarkedLater, calmLater⟩⟩ := right
  refine ⟨⟨before ++ after, ?_, ?_⟩, mild ++ mildLater, ?_,
    List.forall_mem_append.mpr ⟨calm, calmLater⟩⟩
  · rw [ended, begun, List.append_assoc]
  · rw [List.filter_append, told, toldLater]
  · rw [remarkedLater, remarked, List.append_assoc]

end World

namespace Scene

theorem tells_enter {scene : Scene} (new : scene.state = .uninitialized) (world : World) :
    world.Tells [.sceneEntered scene.id] (scene.enter world).2 := by
  obtain ⟨middle, works, entered⟩ := works_enter new world
  rw [entered]
  exact works.tells.trans (middle.tells_report rfl)

theorem tells_teardown {scene : Scene} (stands : scene.state ≠ .tornDown) (world : World) :
    world.Tells [.sceneTornDown scene.id] (scene.teardown world).2 := by
  obtain ⟨middle, works, gone⟩ := works_teardown stands world
  rw [gone]
  exact works.tells.trans (middle.tells_report rfl)

end Scene

namespace Player

variable {player next : Player}

/-! ### How far a play has come -/

/-- The moment that a play has come to. -/
def moment (player : Player) : Moment :=
  match player.phase with
  | .loaded => .loaded
  | .splash => if player.splashPlayback.isSome then .splash else .scenes none
  | .playing => .scenes (player.scene.map Scene.id)

/-- **The invariant of a play.** The start scene exists. The scene in play is active, and the splash is
over then. There is a splash only in its own phase. There was no remark on an error, and since the
story was loaded the milestones are those of the moment. -/
structure Lives (player : Player) : Prop where
  starts : (player.document.scene? player.document.start).isSome = true
  shows : ∀ scene, player.scene = some scene → scene.state = .active ∧ player.Shows scene
  plain : player.phase ≠ .splash → player.splashSprite = none ∧ player.splashPlayback = none
  calm : ∀ remark ∈ player.world.remarks.toList, remark.level ≠ .error
  log : ∃ assets events, player.world.events.toList = .storyLoaded assets :: events ∧
    Chronicle player.document.start player.moment (events.filter Event.isMilestone)

namespace Lives

variable {told : List Event}

/-- What is done with a player keeps the invariant, if what it tells goes on with the chronicle. -/
theorem goesOn (lives : player.Lives) (document : next.document = player.document)
    (shows : ∀ scene, next.scene = some scene → scene.state = .active ∧ next.Shows scene)
    (plain : next.phase ≠ .splash → next.splashSprite = none ∧ next.splashPlayback = none)
    (tells : player.world.Tells told next.world)
    (chronicle : ∀ {log : List Event}, Chronicle player.document.start player.moment log →
      Chronicle player.document.start next.moment (log ++ told)) : next.Lives := by
  obtain ⟨assets, events, begun, log⟩ := lives.log
  obtain ⟨⟨new, added, milestones⟩, ⟨remarks, remarked, calm⟩⟩ := tells
  refine ⟨document ▸ lives.starts, shows, plain, ?_, assets, events ++ new, ?_, ?_⟩
  · rw [remarked]
    exact List.forall_mem_append.mpr ⟨lives.calm, calm⟩
  · rw [added, begun]
    rfl
  · rw [document, List.filter_append, milestones]
    exact chronicle log

/-- A scene is in play only in the phase of scenes. -/
theorem scene_eq_none (lives : player.Lives) (other : player.phase ≠ .playing) :
    player.scene = none := by
  cases current : player.scene with
  | none => rfl
  | some scene => exact absurd (lives.shows scene current).2.phase other

theorem current_moment (lives : player.Lives) :
    player.moment.current = player.scene.map Scene.id := by
  unfold moment
  split
  · rename_i loaded
    rw [lives.scene_eq_none (by rw [loaded]; decide)]
    rfl
  · rename_i splash
    rw [lives.scene_eq_none (by rw [splash]; decide)]
    split <;> rfl
  · rfl

/-- While the sound of the splash is awaited, the splash is shown. -/
theorem moment_of_awaited (lives : player.Lives) {playback : PlaybackId}
    (awaited : player.splashPlayback = some playback) :
    player.moment = .splash ∧ player.scene = none := by
  have splash : player.phase = .splash := by
    by_contra other
    cases (lives.plain other).2.symm.trans awaited
  refine ⟨?_, lives.scene_eq_none (by rw [splash]; decide)⟩
  unfold moment
  rw [splash, awaited]
  rfl

/-- **Work keeps the invariant.** -/
theorem stays (lives : player.Lives) (stays : player.Stays next) : next.Lives := by
  refine lives.goesOn stays.document (fun scene current => ?_) ?_ stays.works.tells fun log => ?_
  · have title := stays.scene
    rw [current] at title
    obtain ⟨old, before, same⟩ := Option.map_eq_some_iff.mp title.symm
    obtain ⟨active, shows⟩ := lives.shows old before
    have state : scene.state = old.state := (congrArg Prod.snd same).symm
    exact ⟨state.trans active, current, stays.phase.trans shows.phase,
      stays.sprite.trans shows.sprite, stays.playback.trans shows.playback⟩
  · rw [stays.phase, stays.sprite, stays.playback]
    exact lives.plain
  · have ids : next.scene.map Scene.id = player.scene.map Scene.id := by
      have titles := congrArg (Option.map Prod.fst) stays.scene
      rw [Option.map_map, Option.map_map] at titles
      exact titles
    have same : next.moment = player.moment := by
      unfold moment
      rw [stays.phase, stays.playback, ids]
    rw [same, List.append_nil]
    exact log

end Lives

/-! ### Scenes come and go -/

/-- What is told when the scene in play is left. -/
theorem tells_clear (active : ∀ scene, player.scene = some scene → scene.state = .active) :
    player.world.Tells ((player.scene.map Scene.id).toList.map .sceneTornDown)
      player.leaveScene.clearSplash.world := by
  have left : player.world.Tells ((player.scene.map Scene.id).toList.map .sceneTornDown)
      player.leaveScene.world := by
    unfold leaveScene
    cases current : player.scene with
    | none => exact (World.Works.refl player.world).tells
    | some scene => exact scene.tells_teardown (by rw [active scene current]; decide) player.world
  have cleared : player.leaveScene.world.Works player.leaveScene.clearSplash.world := by
    unfold clearSplash
    cases player.leaveScene.splashSprite <;> cases player.leaveScene.splashPlayback <;>
      exact .of_eq rfl rfl rfl
  have whole := left.trans cleared.tells
  rwa [List.append_nil] at whole

theorem tells_enterSpec (active : ∀ scene, player.scene = some scene → scene.state = .active)
    (id : String) (spec : Story.Scene) :
    player.world.Tells ((player.scene.map Scene.id).toList.map .sceneTornDown ++ [.sceneEntered id])
      (player.enterSpec id spec).world := by
  have new : (Scene.ofSpec id spec player.leaveScene.clearSplash.document.style
      player.leaveScene.clearSplash.options).state = .uninitialized := rfl
  exact (tells_clear active).trans (Scene.tells_enter new _)

theorem shows_enterSpec (player : Player) (id : String) (spec : Story.Scene) :
    ∀ scene, (player.enterSpec id spec).scene = some scene →
      scene.state = .active ∧ (player.enterSpec id spec).Shows scene := by
  intro scene current
  refine ⟨?_, current, rfl, rfl, rfl⟩
  cases current
  exact Scene.state_enter id spec _ _ _

theorem moment_enterSpec (player : Player) (id : String) (spec : Story.Scene) :
    (player.enterSpec id spec).moment = .scenes (some id) := by
  have new : (Scene.ofSpec id spec player.leaveScene.clearSplash.document.style
      player.leaveScene.clearSplash.options).state = .uninitialized := rfl
  exact congrArg (fun id => Moment.scenes (some id)) (Scene.enter_fst new _).2

/-- When the scene in play and the splash are left, no scene is in play. -/
theorem moment_clear (player : Player) :
    player.leaveScene.clearSplash.moment = player.moment.left := by
  have phase : player.leaveScene.phase = player.phase := by
    unfold leaveScene
    cases player.scene <;> rfl
  have scene := scene_clear player
  unfold moment
  rw [scene, show player.leaveScene.clearSplash.phase = player.phase from phase]
  cases player.phase with
  | loaded => rfl
  | splash => cases player.splashPlayback <;> rfl
  | playing => rfl

namespace Lives

/-- The invariant holds once a scene is entered, if what was told before goes on with the chronicle. -/
theorem enterSpec (lives : player.Lives) {told : List Event}
    (same : next.document = player.document) {id : String} {spec : Story.Scene}
    (tells : player.world.Tells told (next.enterSpec id spec).world)
    (chronicle : ∀ {log : List Event}, Chronicle player.document.start player.moment log →
      Chronicle player.document.start (.scenes (some id)) (log ++ told)) :
    (next.enterSpec id spec).Lives :=
  lives.goesOn ((next.same_enterSpec id spec).document.trans same) (next.shows_enterSpec id spec)
    (fun _ => ⟨rfl, rfl⟩) tells fun log => by
      rw [moment_enterSpec]
      exact chronicle log

theorem enterScene (lives : player.Lives) (id : String) : (player.enterScene id).2.Lives := by
  refine enterScene_cases lives fun spec _ => ?_
  refine lives.enterSpec rfl (tells_enterSpec (fun scene current => (lives.shows scene current).1) id spec)
    fun log => ?_
  rw [← lives.current_moment]
  exact log.leave_enter id

theorem shutdown (lives : player.Lives) : player.shutdown.Lives := by
  have active : ∀ scene, player.scene = some scene → scene.state = .active :=
    fun scene current => (lives.shows scene current).1
  refine lives.goesOn player.same_clear.document ?_ (fun _ => ⟨rfl, rfl⟩) (tells_clear active)
    fun log => ?_
  · intro scene current
    cases (scene_clear player).symm.trans current
  · rw [← lives.current_moment]
    exact player.moment_clear ▸ log.leave

end Lives

/-! ### The splash -/

theorem tells_playSplash (player : Player) :
    player.world.Tells [.splashShown] player.playSplash.world := by
  have played : player.world.Works
      { player.world with audio := (player.world.audio.play player.document.splash.sound).2 } :=
    .of_eq rfl rfl rfl
  have milestone : Event.isMilestone .splashShown = true := rfl
  exact ((played.trans (World.works_info _ _ _)).tells.trans (World.tells_report _ milestone)).trans
    (World.works_report _ rfl).tells

namespace Lives

theorem playSplash (lives : player.Lives) (loaded : player.phase = .loaded) :
    player.showSplash.playSplash.Lives := by
  have shown := player.stays_showSplash
  have tells := shown.works.tells.trans player.showSplash.tells_playSplash
  have none : player.showSplash.scene = none := by
    have same := shown.scene
    rw [lives.scene_eq_none (by rw [loaded]; decide)] at same
    exact Option.map_eq_none_iff.mp same
  refine lives.goesOn shown.document ?_ (fun other => absurd rfl other) tells fun log => ?_
  · exact fun scene current => nomatch none.symm.trans current
  · have moment : player.moment = .loaded := by
      unfold Player.moment
      rw [loaded]
    rw [moment] at log
    exact log.begin

/-- Without a splash the start scene is entered at once. -/
theorem skipSplash (lives : player.Lives) (loaded : player.phase = .loaded) (spec : Story.Scene) :
    (player.skipSplash.enterSpec player.document.start spec).Lives := by
  have skipped := player.stays_skipSplash
  have none : player.skipSplash.scene = none := by
    have same := skipped.scene
    rw [lives.scene_eq_none (by rw [loaded]; decide)] at same
    exact Option.map_eq_none_iff.mp same
  have active : ∀ scene, player.skipSplash.scene = some scene → scene.state = .active :=
    fun scene current => nomatch none.symm.trans current
  have moment : player.moment.current = Option.none := by
    unfold Player.moment
    rw [loaded]
    rfl
  have document : player.skipSplash.document = player.document := skipped.document
  have tells : player.world.Tells _ (player.skipSplash.enterSpec player.document.start spec).world :=
    skipped.works.tells.trans (tells_enterSpec active player.document.start spec)
  refine lives.enterSpec document tells fun log => ?_
  rw [none]
  exact log.enter moment _

/-- **A story can be started at any time**, and that keeps the invariant. -/
theorem start (lives : player.Lives) : player.start.1 = .ok () ∧ player.start.2.Lives := by
  obtain ⟨spec, found⟩ := Option.isSome_iff_exists.mp lives.starts
  by_cases loaded : player.phase = .loaded
  · cases sound : player.world.resources.sound? player.document.splash.sound with
    | none =>
      rw [start_enters loaded sound found]
      exact ⟨rfl, lives.skipSplash loaded spec⟩
    | some clip =>
      rw [start_splash loaded sound]
      exact ⟨rfl, lives.playSplash loaded⟩
  · rw [start_late loaded]
    exact ⟨rfl, lives.stays (player.stays_world (player.world.works_warn _ _))⟩

/-- **When the sound of the splash has ended, the start scene is entered.** -/
theorem leaveSplash (lives : player.Lives) {playback : PlaybackId}
    (awaited : player.splashPlayback = some playback) : (player.finish playback).Lives := by
  obtain ⟨moment, none⟩ := lives.moment_of_awaited awaited
  obtain ⟨spec, found⟩ := Option.isSome_iff_exists.mp lives.starts
  have active : ∀ scene, player.endSplash.scene = some scene → scene.state = .active :=
    fun scene current => nomatch none.symm.trans current
  have ended : player.world.Tells [.splashFinished] player.endSplash.world :=
    player.world.tells_report rfl
  unfold Player.finish
  rw [if_pos awaited, leaveSplash_eq_enterSpec found]
  -- between the end of the splash and the entry the invariant does not hold: both are told at once
  have tells := ended.trans (tells_enterSpec active player.document.start spec)
  have document : player.endSplash.document = player.document := rfl
  refine lives.enterSpec document tells fun log => ?_
  rw [moment] at log
  rw [show player.endSplash.scene = _ from none]
  exact log.finish

theorem finish (lives : player.Lives) (playback : PlaybackId) : (player.finish playback).Lives := by
  by_cases awaited : player.splashPlayback = some playback
  · exact lives.leaveSplash awaited
  · exact lives.stays (stays_finish awaited)

theorem frame (lives : player.Lives) (span : Nat) : (player.frame span).Lives := by
  have before : (player.beforeMotions span).Lives :=
    List.foldlRecOn (player.ended span) Player.finish (lives.stays (player.stays_beforePlaybacks span))
      fun _ lives playback _ => lives.finish playback
  rw [frame_eq]
  exact before.stays (stays_tick _ span)

/-! ### Every play -/

/-- **Every operation keeps the invariant.** -/
theorem perform (lives : player.Lives) (operation : Operation) : (player.perform operation).Lives := by
  cases operation with
  | start => exact lives.start.2
  | enterScene id => exact lives.enterScene id
  | frame span => exact lives.frame span
  | touch character => exact lives.stays (player.stays_touch character)
  | touchNamed name => exact lives.stays (player.stays_touchNamed name)
  | pointerUpAt x y => exact lives.stays (player.stays_pointerUpAt x y)
  | render viewport => exact lives.stays (player.stays_render viewport)
  | destroy sprite => exact lives.stays (player.stays_destroySprite sprite)
  | shutdown => exact lives.shutdown

theorem run (lives : player.Lives) (operations : List Operation) : (player.run operations).Lives :=
  List.foldlRecOn operations Player.perform lives fun _ lives operation _ => lives.perform operation

end Lives

/-- The invariant holds when a story that has its start scene is loaded. -/
theorem lives_ofResources {document : Story.Document}
    (starts : (document.scene? document.start).isSome = true) (resources : Asset.Resources)
    (audio : Audio) (viewport : Viewport) (options : SceneOptions) :
    (ofResources document resources audio viewport options).Lives where
  starts
  shows := nofun
  plain := fun _ => ⟨rfl, rfl⟩
  calm := nofun
  log := ⟨_, [], rfl, .loaded⟩

end Player

/-- A story that was read has its start scene. -/
theorem Story.Document.starts_of_ofJson {text : String} {document : Document}
    (read : ofJson text = .ok document) : (document.scene? document.start).isSome = true := by
  unfold ofJson at read
  cases decoded : (Json.decode decode text).mapError DocumentError.malformed with
  | error fault =>
    rw [decoded] at read
    cases read
  | ok written =>
    rw [decoded] at read
    change checkStart written = .ok document at read
    unfold checkStart at read
    split at read <;> cases read
    assumption

namespace Player

variable {player : Player}

/-- The protocol of a play, in a state between two operations. -/
structure FollowsProtocol (player : Player) : Prop where
  /-- The first event is that the story was loaded, and there is no other of them. -/
  loaded : ∃ assets later, player.world.events.toList = .storyLoaded assets :: later ∧
    ∀ assets, .storyLoaded assets ∉ later
  shown : player.world.events.toList.count .splashShown ≤ 1
  finished : player.world.events.toList.count .splashFinished ≤ 1
  /-- Where the splash ends, it was shown before, and the next scene is the start scene. -/
  ended : ∀ before after, player.world.events.toList = before ++ .splashFinished :: after →
    .splashShown ∈ before ∧
      (after.filter Event.isOfScene).head? = some (.sceneEntered player.document.start)
  /-- The scene in play is the one that was entered and not torn down. -/
  scenes : Alternates (player.world.events.toList.filter Event.isOfScene) (player.scene.map Scene.id)
  playing : ∀ scene, player.scene = some scene → scene.state = .active ∧ player.phase = .playing ∧
    player.splashSprite = none ∧ player.splashPlayback = none
  waiting : player.phase = .loaded →
    player.scene = none ∧ player.splashSprite = none ∧ player.splashPlayback = none
  starts : player.start.1 = .ok ()
  /-- A frame never remarks that the start scene could not be entered. -/
  frames : ∀ span, ∀ remark ∈ (player.frame span).world.remarks.toList, remark.level ≠ .error

theorem Lives.followsProtocol (lives : player.Lives) : player.FollowsProtocol := by
  obtain ⟨assets, events, begun, log⟩ := lives.log
  have count : ∀ {event : Event}, event.isMilestone = true → event.isOfScene = false →
      event ≠ .storyLoaded assets → player.world.events.toList.count event ≤ 1 := by
    intro event milestone other different
    rw [begun, List.count_cons_of_ne different.symm]
    exact log.count_le_one milestone other
  refine ⟨⟨assets, events, begun, log.notMem_loaded⟩, count rfl rfl nofun, count rfl rfl nofun, ?_, ?_,
    ?_, ?_, lives.start.1, fun span => (lives.frame span).calm⟩
  · intro before after split
    rw [begun] at split
    cases before with
    | nil => cases split
    | cons first before =>
      obtain ⟨rfl, rest⟩ := List.cons.inj split
      obtain ⟨shown, entered⟩ := log.finished rest
      exact ⟨List.mem_cons_of_mem _ shown, entered⟩
  · rw [begun, ← lives.current_moment]
    exact log.alternates
  · intro scene current
    obtain ⟨active, shows⟩ := lives.shows scene current
    exact ⟨active, shows.phase, shows.sprite, shows.playback⟩
  · intro loaded
    exact ⟨lives.scene_eq_none (by rw [loaded]; decide), lives.plain (by rw [loaded]; decide)⟩

/-- **Every play of a story that was read follows the protocol**, whatever is done with the player, and
in whichever order. -/
theorem follows_protocol {text : String} {document : Story.Document}
    (read : Story.Document.ofJson text = .ok document) (resources : Asset.Resources)
    (audio : Audio) (viewport : Viewport) (options : SceneOptions) (operations : List Operation) :
    ((ofResources document resources audio viewport options).run operations).FollowsProtocol := by
  have starts := Story.Document.starts_of_ofJson read
  exact ((lives_ofResources starts resources audio viewport options).run operations).followsProtocol

/-- The text of a story of one room. -/
def roomText : String :=
  "\x7b\"splash\": \x7b\"image\": \"s.png\", \"sound\": \"s.mp3\"\x7d, \"start\": \"room\", " ++
    "\"scenes\": \x7b\"room\": \x7b\"background\": \"room.png\"\x7d\x7d\x7d"

/-- What it tells. -/
def roomStory : Story.Document :=
  ⟨.standard, ⟨"s.png", "s.mp3"⟩, "room", [("room", ⟨"room.png", [], []⟩)]⟩

/-- The splash is shown and ends, the room is entered again, and the player is shut down. -/
def roomVisit : List Operation :=
  [.start, .frame 1000000000, .start, .frame 2000000000, .enterScene "room", .shutdown, .shutdown]

/-- The milestones of that play. -/
theorem follows_roomVisit :
    let player := (ofResources roomStory ⟨[("s.mp3", .sound ⟨none⟩), ("s.png", .texture ⟨64, 64⟩)]⟩
      (.silent 3000000000 []) ⟨800, 600⟩ .standard).run roomVisit
    Story.Document.ofJson roomText = .ok roomStory ∧ player.FollowsProtocol ∧
      player.world.events.toList.filter Event.isMilestone =
        [.storyLoaded 3, .splashShown, .splashFinished, .sceneEntered "room",
          .sceneTornDown "room", .sceneEntered "room", .sceneTornDown "room"] := by
  have read : Story.Document.ofJson roomText = .ok roomStory := by
    decide +kernel
  exact ⟨read, follows_protocol read _ _ _ _ roomVisit, by decide +kernel⟩

end Player

end Storybook
