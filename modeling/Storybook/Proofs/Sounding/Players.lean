/-
**Which playings a play loses.**

The sound chain of the scene in play loses an awaited playing when an audio effect is about its sound,
and in no other way.

* `Player.cut`, `Player.cutRun`: the awaited playings that an operation, or a list of them, cuts off;
* `Player.Hears`: the awaited playings go on, but for those that were cut off and those whose end is
  still to be told to the chain;
* `Player.Rests`: the same between operations, where no end is left to be told;
* `Player.Rests.perform`, `Player.Rests.run`: every operation, and every list of operations.
-/

import Storybook.Proofs.Holding.Players
import Storybook.Proofs.Sounding.Scenes

namespace Storybook.Player

variable {lost left : List PlaybackId} {sounds : List String} {player next : Player}

/-! ### What is cut off -/

/-- The awaited playings of some sounds. -/
def cutOf (player : Player) (sounds : List String) : List PlaybackId :=
  match player.scene with
  | some scene => scene.sounds.cut sounds
  | none => []

/-- The sounds that are silenced when a character is touched. -/
def touchSounds (player : Player) (id : CharacterId) : List String :=
  match player.scene with
  | some scene => scene.touchSounds id
  | none => []

/-- The sounds that are silenced when a pointer is lifted at a point. -/
def pointerSounds (player : Player) (x y : Single) : List String :=
  match player.scene with
  | some scene => scene.pointerSounds player.world x y
  | none => []

/-- The sounds that are silenced when a task is done: only a character that appears again silences
any. -/
def taskSounds (player : Player) : Task → List String
  | .retrigger id =>
    match player.scene with
    | some scene => scene.retriggerSounds player.world id
    | none => []
  | _ => []

/-- The awaited playings that are cut off when characters are touched one after the other. -/
def cutByTouches : List CharacterId → Player → List PlaybackId
  | [], _ => []
  | id :: rest, player =>
    player.cutOf (player.touchSounds id) ++ cutByTouches rest (player.touch id).2

/-- The awaited playings that are cut off when tasks are done one after the other. -/
def cutByTasks : List Task → Player → List PlaybackId
  | [], _ => []
  | task :: rest, player =>
    player.cutOf (player.taskSounds task) ++ cutByTasks rest (player.dispatch task)

/-- The characters of the scene in play with a name. -/
def named (player : Player) (name : String) : List CharacterId :=
  match player.scene with
  | some scene => scene.withName name
  | none => []

/-- The awaited playings that an operation cuts off. -/
def cut (player : Player) : Operation → List PlaybackId
  | .frame span => cutByTasks (player.due span) (player.during span [])
  | .touch id => player.cutOf (player.touchSounds id)
  | .touchNamed name => cutByTouches (player.named name) player
  | .pointerUpAt x y => player.cutOf (player.pointerSounds x y)
  | _ => []

/-- The awaited playings that are cut off in a run. -/
def cutRun : List Operation → Player → List PlaybackId
  | [], _ => []
  | operation :: rest, player => player.cut operation ++ cutRun rest (player.perform operation)

/-! ### What goes on -/

/-- The sound chain of the scene in play and the voices agree. -/
structure Hears (lost left : List PlaybackId) (player : Player) : Prop where
  numbered : player.world.audio.Numbered
  given : ∀ playback ∈ lost, playback.number ≤ player.world.audio.issued
  tracks : ∀ scene, player.scene = some scene → scene.sounds.Tracks lost left player.world.audio

theorem Hears.mem_cutOf (hears : player.Hears lost left) :
    ∀ playback ∈ player.cutOf sounds, playback.number ≤ player.world.audio.issued := by
  unfold cutOf
  intro playback member
  split at member
  · rename_i scene current
    obtain ⟨link, awaited, _⟩ := SoundChain.mem_cut.mp member
    exact (hears.tracks scene current).issued _ awaited
  · cases member

/-- **When sounds are silenced, exactly their awaited playings are cut off.** -/
theorem Hears.silence (hears : player.Hears lost left)
    (silences : Audio.Silences sounds player.world.audio next.world.audio)
    (chains : next.scene.map Scene.sounds = player.scene.map Scene.sounds) :
    next.Hears (lost ++ player.cutOf sounds) left where
  numbered := silences.numbered hears.numbered
  given playback member := by
    refine Nat.le_trans ?_ silences.issued
    exact (List.mem_append.mp member).elim (hears.given playback) (hears.mem_cutOf playback)
  tracks scene current := by
    rw [current, Option.map_some] at chains
    obtain ⟨before, was, same⟩ := Option.map_eq_some_iff.mp chains.symm
    have after := (hears.tracks before was).silence silences
    unfold cutOf
    rw [was]
    exact same ▸ after

theorem cutOf_nil (player : Player) : player.cutOf [] = [] := by
  unfold cutOf
  split
  · exact SoundChain.cut_nil _
  · rfl

/-- Where no sound is silenced, nothing is cut off. -/
theorem Hears.spare (hears : player.Hears lost left)
    (silences : Audio.Silences [] player.world.audio next.world.audio)
    (chains : next.scene.map Scene.sounds = player.scene.map Scene.sounds) :
    next.Hears lost left := by
  have after := hears.silence silences chains
  rw [player.cutOf_nil, List.append_nil] at after
  exact after

/-- Where no scene is played, or one that has just been entered, there is nothing to be cut off. -/
theorem Hears.renew {told : List PlaybackId} (hears : player.Hears lost left)
    (silences : ∃ sounds, Audio.Silences sounds player.world.audio next.world.audio)
    (idle : ∀ scene, next.scene = some scene → scene.sounds.awaiting = []) : next.Hears lost told := by
  obtain ⟨sounds, silences⟩ := silences
  exact ⟨silences.numbered hears.numbered,
    fun playback member => Nat.le_trans (hears.given playback member) silences.issued,
    fun scene current => .of_nil (idle scene current)⟩

/-! ### Scenes come and go -/

/-- The sounds that are stopped when the splash is cleared. -/
def splashSounds (player : Player) : List String :=
  if player.splashPlayback.isSome then [player.document.splash.sound] else []

theorem alters_clearSplash (player : Player) :
    Audio.Alters player.splashSounds [] player.world.audio player.clearSplash.world.audio := by
  unfold clearSplash splashSounds
  cases player.splashSprite <;> cases player.splashPlayback
  · exact .refl _
  · exact Audio.alters_stop _ _
  · exact .refl _
  · exact Audio.alters_stop _ _

/-- While a scene is left and the splash is cleared, voices are stopped, and none begins. -/
theorem silences_clear (player : Player) :
    ∃ sounds, Audio.Silences sounds player.world.audio player.leaveScene.clearSplash.world.audio := by
  have left : ∃ sounds, Audio.Silences sounds player.world.audio player.leaveScene.world.audio := by
    unfold leaveScene
    split
    · exact ⟨_, (Scene.alters_teardown _ _).toSilences⟩
    · exact ⟨_, .refl _⟩
  obtain ⟨sounds, left⟩ := left
  exact ⟨_, left.trans player.leaveScene.alters_clearSplash.toSilences⟩

/-- A scene that is entered waits for no playing yet. -/
theorem silences_enterSpec (player : Player) (id : String) (spec : Story.Scene) :
    (∃ sounds, Audio.Silences sounds player.world.audio (player.enterSpec id spec).world.audio) ∧
      ∀ scene, (player.enterSpec id spec).scene = some scene → scene.sounds.awaiting = [] := by
  obtain ⟨sounds, cleared⟩ := player.silences_clear
  obtain ⟨⟨more, entered⟩, idle⟩ :=
    (Scene.ofSpec id spec player.document.style player.options).silences_enter
      player.leaveScene.clearSplash.world
  have same : player.leaveScene.clearSplash.document = player.document ∧
      player.leaveScene.clearSplash.options = player.options := by
    unfold clearSplash leaveScene
    cases player.scene <;> exact ⟨rfl, rfl⟩
  unfold enterSpec
  dsimp only
  rw [same.1, same.2]
  exact ⟨⟨_, cleared.trans entered⟩, fun scene current => Option.some.inj current ▸ idle⟩

/-! ### The tasks of a frame -/

/-- What the sound chain of the scene in play does, where no voice is stopped. -/
theorem Hears.withScene {told : List PlaybackId} (hears : player.Hears lost left)
    {change : Scene → World → Scene × World}
    (silences : ∀ scene, player.scene = some scene →
      Audio.Silences [] player.world.audio (change scene player.world).2.audio)
    (tracks : ∀ scene, player.scene = some scene →
      (change scene player.world).1.sounds.Tracks lost told (change scene player.world).2.audio) :
    (player.withScene change).Hears lost told := by
  unfold Player.withScene
  split
  · rename_i scene current
    have silences := silences scene current
    exact ⟨silences.numbered hears.numbered,
      fun playback member => Nat.le_trans (hears.given playback member) silences.issued,
      fun _ same => Option.some.inj same ▸ tracks scene current⟩
  · rename_i absent
    exact ⟨hears.numbered, hears.given, fun _ current => nomatch absent.symm.trans current⟩

theorem silences_dispatch (player : Player) (task : Task) :
    Audio.Silences (player.taskSounds task) player.world.audio (player.dispatch task).world.audio := by
  unfold dispatch withScene taskSounds
  cases task with
  | playSound link =>
    cases player.scene with
    | some scene => exact scene.silences_playSound player.world link
    | none => exact .refl _
  | startMotion tick motion => exact .refl _
  | retrigger id =>
    cases player.scene with
    | some scene => exact scene.silences_retrigger player.world id
    | none => exact .refl _

/-- **A task is done**: what it silences is cut off, and nothing else. -/
theorem Hears.dispatch (hears : player.Hears lost left) (task : Task) :
    (player.dispatch task).Hears (lost ++ player.cutOf (player.taskSounds task)) left := by
  have silences := player.silences_dispatch task
  cases task with
  | playSound link =>
    unfold taskSounds
    rw [player.cutOf_nil, List.append_nil]
    exact hears.withScene (fun scene _ => scene.silences_playSound player.world link)
      fun scene current => Scene.tracks_playSound (hears.tracks scene current) hears.numbered
        hears.given link
  | startMotion tick motion => exact hears.silence silences rfl
  | retrigger id =>
    refine hears.silence silences ?_
    unfold Player.dispatch Player.withScene
    cases current : player.scene with
    | some scene => exact congrArg some (scene.sounds_retrigger player.world id)
    | none => exact congrArg _ current

theorem Hears.dispatchEach (tasks : List Task) :
    ∀ {lost : List PlaybackId} {player : Player}, player.Hears lost left →
      (tasks.foldl Player.dispatch player).Hears (lost ++ cutByTasks tasks player) left ∧
        (tasks.foldl Player.dispatch player).world.audio.finished = player.world.audio.finished := by
  induction tasks with
  | nil =>
    intro lost player hears
    exact ⟨(List.append_nil lost).symm ▸ hears, rfl⟩
  | cons task rest ih =>
    intro lost player hears
    obtain ⟨after, drained⟩ := ih (hears.dispatch task)
    rw [List.append_assoc] at after
    exact ⟨after, drained.trans (player.silences_dispatch task).finished⟩

/-! ### The ends of playings -/

/-- The splash is heard only while no scene is played. -/
def Plain (player : Player) : Prop :=
  player.splashPlayback = none ∨ player.scene = none

theorem Kept.plain {gone : Losses} (kept : player.Kept gone) : player.Plain := by
  cases kept with
  | waiting waits => exact Or.inr waits.scene
  | playing scene shows => exact Or.inl shows.playback

theorem plain_withScene (plain : player.Plain) (change : Scene → World → Scene × World) :
    (player.withScene change).Plain := by
  unfold withScene
  split
  · rename_i scene current
    exact Or.inl (plain.resolve_right fun absent => nomatch absent.symm.trans current)
  · exact plain

theorem plain_dispatch (plain : player.Plain) (task : Task) : (player.dispatch task).Plain := by
  cases task with
  | startMotion tick motion => exact plain
  | _ => exact plain_withScene plain _

theorem plain_dispatchEach (tasks : List Task) :
    ∀ {player : Player}, player.Plain → (tasks.foldl dispatch player).Plain := by
  induction tasks with
  | nil => exact fun plain => plain
  | cons task rest ih => exact fun plain => ih (plain_dispatch plain task)

/-- The sound of the splash has ended once and for all. -/
theorem plain_leaveSplash (player : Player) : player.leaveSplash.Plain :=
  leaveSplash_cases (fun _ => Or.inl rfl) fun _ _ => Or.inl rfl

theorem plain_finish (plain : player.Plain) (playback : PlaybackId) :
    (player.finish playback).Plain := by
  unfold finish
  split
  · exact player.plain_leaveSplash
  · exact plain_withScene plain _

/-- When the sound of the splash has ended, a scene that is entered waits for no playing yet, and if
none can be entered, none is played. -/
theorem silences_leaveSplash (absent : player.scene = none) :
    (∃ sounds, Audio.Silences sounds player.world.audio player.leaveSplash.world.audio) ∧
      ∀ scene, player.leaveSplash.scene = some scene → scene.sounds.awaiting = [] :=
  leaveSplash_cases (motive := fun next =>
      (∃ sounds, Audio.Silences sounds player.world.audio next.world.audio) ∧
        ∀ scene, next.scene = some scene → scene.sounds.awaiting = [])
    (fun _ => ⟨⟨_, .refl _⟩, fun _ current => nomatch absent.symm.trans current⟩)
    fun spec _ => player.endSplash.silences_enterSpec _ spec

/-- **The end of a playing is told.** -/
theorem Hears.finish (plain : player.Plain) {playback : PlaybackId}
    (hears : player.Hears lost (playback :: left)) :
    (player.finish playback).Hears lost left ∧
      (player.finish playback).world.audio.finished = player.world.audio.finished := by
  unfold Player.finish
  split
  · rename_i splash
    have absent := plain.resolve_left fun none => nomatch none.symm.trans splash
    obtain ⟨⟨sounds, silences⟩, idle⟩ := silences_leaveSplash absent
    exact ⟨hears.renew ⟨sounds, silences⟩ idle, silences.finished⟩
  · refine ⟨hears.withScene ?_ ?_, ?_⟩
    · exact fun scene _ => .of_eq (scene.sounds.audio_finish playback player.world)
    · exact fun scene current => (hears.tracks scene current).finish
    · unfold Player.withScene
      split
      · rename_i scene _
        exact congrArg Audio.finished (scene.sounds.audio_finish playback player.world)
      · rfl

theorem Hears.finishEach (playbacks : List PlaybackId) :
    ∀ {player : Player}, player.Plain → player.Hears lost (playbacks ++ left) →
      (playbacks.foldl Player.finish player).Hears lost left ∧
        (playbacks.foldl Player.finish player).world.audio.finished = player.world.audio.finished := by
  induction playbacks with
  | nil => exact fun _ hears => ⟨hears, rfl⟩
  | cons playback rest ih =>
    intro player plain hears
    obtain ⟨told, drained⟩ := hears.finish plain
    obtain ⟨after, same⟩ := ih (plain_finish plain playback) told
    exact ⟨after, same.trans drained⟩

theorem plain_finishEach (playbacks : List PlaybackId) :
    ∀ {player : Player}, player.Plain → (playbacks.foldl finish player).Plain := by
  induction playbacks with
  | nil => exact fun plain => plain
  | cons playback rest ih => exact fun plain => ih (plain_finish plain playback)

/-! ### Frames -/

/-- Between operations no end is left to be told. -/
structure Rests (lost : List PlaybackId) (player : Player) : Prop where
  hears : player.Hears lost []
  drained : player.world.audio.finished = []

/-- Time passes. -/
theorem Rests.advance (rests : player.Rests lost) (span : Nat) :
    (player.during span []).Hears lost (player.world.audio.update span).finished where
  numbered voice member := rests.hears.numbered voice (Audio.mem_voices_update.mp member).1
  given := rests.hears.given
  tracks scene current := (rests.hears.tracks scene current).update rests.drained span

/-- In a frame, the ends that time has reached are told, whatever its tasks do. -/
theorem Rests.ended (rests : player.Rests lost) (span : Nat) :
    player.ended span = (player.world.audio.update span).finished :=
  ((rests.advance span).dispatchEach (player.due span)).2

theorem plain_during (plain : player.Plain) (span : Nat) :
    (player.during span (player.due span)).Plain :=
  plain_dispatchEach (player.due span) (plain : (player.during span []).Plain)

theorem plain_afterPlaybacks (plain : player.Plain) (span : Nat) (playbacks : List PlaybackId) :
    (player.afterPlaybacks span playbacks).Plain :=
  plain_finishEach playbacks (plain_during plain span)

/-- In a frame, when some of the ends are told. -/
theorem Rests.afterPlaybacks (rests : player.Rests lost) (plain : player.Plain) (span : Nat)
    {told later : List PlaybackId} (split : player.ended span = told ++ later) :
    (player.afterPlaybacks span told).Hears (lost ++ player.cut (.frame span)) later ∧
      (player.afterPlaybacks span told).world.audio.finished = [] := by
  obtain ⟨during, drained⟩ := (rests.advance span).dispatchEach (player.due span)
  rw [← rests.ended, split] at during
  refine Hears.finishEach told (plain_during plain span) ⟨during.numbered, during.given, fun scene current => ?_⟩
  have tracks := during.tracks scene current
  exact ⟨tracks.single, tracks.issued, tracks.files, tracks.active⟩

/-- **A frame** cuts off what its tasks silence. -/
theorem Rests.frame (rests : player.Rests lost) (plain : player.Plain) (span : Nat) :
    (player.frame span).Rests (lost ++ player.cut (.frame span)) := by
  obtain ⟨hears, drained⟩ :=
    rests.afterPlaybacks plain span (List.append_nil (player.ended span)).symm
  have silent := World.audio_tick (player.beforeMotions span).world span
  exact ⟨hears.spare (.of_eq silent) rfl, (congrArg Audio.finished silent).trans drained⟩

/-! ### All operations -/

/-- What silences some sounds and leaves the sound chain alone. -/
theorem Rests.silence (rests : player.Rests lost)
    (silences : Audio.Silences sounds player.world.audio next.world.audio)
    (chains : next.scene.map Scene.sounds = player.scene.map Scene.sounds) :
    next.Rests (lost ++ player.cutOf sounds) :=
  ⟨rests.hears.silence silences chains, silences.finished.trans rests.drained⟩

theorem Rests.spare (rests : player.Rests lost) (silent : next.world.audio = player.world.audio)
    (same : next.scene = player.scene) : next.Rests lost :=
  ⟨rests.hears.spare (.of_eq silent) (congrArg _ same),
    (congrArg Audio.finished silent).trans rests.drained⟩

theorem Rests.renew (rests : player.Rests lost)
    (silences : ∃ sounds, Audio.Silences sounds player.world.audio next.world.audio)
    (idle : ∀ scene, next.scene = some scene → scene.sounds.awaiting = []) : next.Rests lost := by
  obtain ⟨sounds, silences⟩ := silences
  exact ⟨rests.hears.renew ⟨sounds, silences⟩ idle, silences.finished.trans rests.drained⟩

/-- What is asked of the scene in play. -/
theorem Rests.askScene (rests : player.Rests lost) {change : Scene → World → Bool × Scene × World}
    (silences : ∀ scene, player.scene = some scene →
      Audio.Silences sounds player.world.audio (change scene player.world).2.2.audio)
    (chains : ∀ scene, (change scene player.world).2.1.sounds = scene.sounds) :
    (player.askScene change).2.Rests (lost ++ player.cutOf sounds) := by
  unfold Player.askScene
  split
  · rename_i scene current
    refine rests.silence (silences scene current) ?_
    rw [current]
    exact congrArg some (chains scene)
  · rename_i absent
    unfold cutOf
    rw [absent, List.append_nil]
    exact rests

theorem Rests.touch (rests : player.Rests lost) (id : CharacterId) :
    (player.touch id).2.Rests (lost ++ player.cutOf (player.touchSounds id)) := by
  refine rests.askScene (fun scene current => ?_) fun scene => scene.sounds_touch player.world id
  unfold touchSounds
  rw [current]
  exact scene.silences_touch player.world id

theorem Rests.pointerUpAt (rests : player.Rests lost) (x y : Single) :
    (player.pointerUpAt x y).2.Rests (lost ++ player.cutOf (player.pointerSounds x y)) := by
  refine rests.askScene (fun scene current => ?_)
    fun scene => scene.sounds_pointerUpAt player.world x y
  unfold pointerSounds
  rw [current]
  exact scene.silences_pointerUpAt player.world x y

theorem Rests.touchEach (ids : List CharacterId) :
    ∀ {lost : List PlaybackId} {player : Player}, player.Rests lost →
      (Player.touchEach ids player).2.Rests (lost ++ cutByTouches ids player) := by
  induction ids with
  | nil => exact fun rests => (List.append_nil _).symm ▸ rests
  | cons id rest ih =>
    intro lost player rests
    have after := ih (rests.touch id)
    rw [List.append_assoc] at after
    exact after

theorem Rests.touchNamed (rests : player.Rests lost) (name : String) :
    (player.touchNamed name).2.Rests (lost ++ cutByTouches (player.named name) player) := by
  unfold Player.touchNamed named
  cases player.scene with
  | some scene => exact rests.touchEach _
  | none => exact (List.append_nil lost).symm ▸ rests

theorem Rests.shutdown (rests : player.Rests lost) : player.shutdown.Rests lost :=
  rests.renew player.silences_clear fun _ current => nomatch player.scene_clear.symm.trans current

theorem Rests.enterScene (rests : player.Rests lost) (id : String) :
    (player.enterScene id).2.Rests lost := by
  refine enterScene_cases rests fun spec _ => ?_
  obtain ⟨silences, idle⟩ := player.silences_enterSpec id spec
  exact rests.renew silences idle

theorem Rests.start (rests : player.Rests lost)
    (waits : player.phase = .loaded → player.scene = none) : player.start.2.Rests lost := by
  have same := player.scene_showSplash
  have shown : player.showSplash.Rests lost := rests.spare player.audio_showSplash same
  refine start_cases (fun _ => rests.spare rfl rfl) (fun loaded _ _ => ?_) fun _ _ => ?_
  · have played := player.showSplash.world.audio.silences_play player.showSplash.document.splash.sound
    exact shown.renew ⟨_, played⟩ fun scene current =>
      nomatch (waits loaded).symm.trans (same.symm.trans current)
  · have skipped : player.skipSplash.Rests lost := shown.spare rfl rfl
    exact skipped.enterScene _

/-- **Every operation loses exactly what it cuts off.** -/
theorem Rests.perform {gone : Losses} (rests : player.Rests lost) (kept : player.Kept gone)
    (operation : Operation) : (player.perform operation).Rests (lost ++ player.cut operation) := by
  have same : lost ++ [] = lost := List.append_nil lost
  cases operation with
  | start => exact same.symm ▸ rests.start fun loaded => (kept.waits_of_loaded loaded).1.scene
  | enterScene id => exact same.symm ▸ rests.enterScene id
  | frame span => exact rests.frame kept.plain span
  | touch id => exact rests.touch id
  | touchNamed name => exact rests.touchNamed name
  | pointerUpAt x y => exact rests.pointerUpAt x y
  | render viewport => exact same.symm ▸ rests.spare rfl rfl
  | destroy sprite => exact same.symm ▸ rests.spare rfl rfl
  | shutdown => exact same.symm ▸ rests.shutdown

/-- **Every run loses exactly what it cuts off.** -/
theorem Rests.run (operations : List Operation) :
    ∀ {lost : List PlaybackId} {player : Player}, player.Kept .any → player.Rests lost →
      (player.run operations).Rests (lost ++ cutRun operations player) := by
  induction operations with
  | nil => exact fun _ rests => (List.append_nil _).symm ▸ rests
  | cons operation rest ih =>
    intro lost player kept rests
    have after := ih (kept_perform kept (player.losesOnly_any operation)) (rests.perform kept operation)
    rw [List.append_assoc] at after
    exact after

end Storybook.Player
