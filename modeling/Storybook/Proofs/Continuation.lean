/-
**Sounds that follow each other may be cut off.**

The scene in play waits for the end of a playing, to let the sounds that follow it wait for their turn.
It waits in vain if an audio effect was about the sound of the playing, and only then: the effect
stops all voices of its sound, and the end of a voice that is stopped is never told.

* `Player.Awaits`, `Player.Goes`: before and after the end of a playing is told to the scene;
* `Player.Rests.goes_frame`: when it is told;
* `Player.continues_iff`: which of the awaited playings go on, in every state between operations.

This can happen: one touch is enough (`Player.interrupted_loop`).
-/

import Storybook.Proofs.Sounding.Players

namespace Storybook.Player

variable {lost left : List PlaybackId} {player : Player} {links : List Story.Sound}
  {entry : PlaybackId × Nat}

/-! ### The end of a playing -/

/-- The scene in play waits for the end of a playing. -/
def Awaits (links : List Story.Sound) (entry : PlaybackId × Nat) (player : Player) : Prop :=
  ∃ scene, player.scene = some scene ∧ scene.sounds.links = links ∧ entry ∈ scene.sounds.awaiting

/-- The scene in play does not wait for the end of a playing any longer, and the sounds that follow it
wait for their turn. -/
def Goes (links : List Story.Sound) (entry : PlaybackId × Nat) (player : Player) : Prop :=
  ∃ scene, player.scene = some scene ∧ scene.sounds.links = links ∧
    entry.1 ∉ scene.sounds.awaiting.map Prod.fst ∧
      scene.sounds.Continues player.world.timers entry.2

/-- A task that is done leaves the awaited playings alone. -/
theorem Awaits.dispatch (awaits : player.Awaits links entry) (task : Task) :
    (player.dispatch task).Awaits links entry := by
  obtain ⟨scene, current, same, member⟩ := awaits
  cases task with
  | playSound link =>
    unfold Player.dispatch withScene
    dsimp only
    rw [current]
    exact ⟨_, rfl, (scene.links_playSound player.world link).trans same,
      Scene.mem_awaiting_playSound member link player.world⟩
  | startMotion tick motion => exact ⟨scene, current, same, member⟩
  | retrigger id =>
    unfold Player.dispatch withScene
    dsimp only
    rw [current]
    have still := scene.sounds_retrigger player.world id
    exact ⟨_, rfl, still ▸ same, still ▸ member⟩

theorem Awaits.dispatchEach (tasks : List Task) :
    ∀ {player : Player}, player.Awaits links entry →
      (tasks.foldl Player.dispatch player).Awaits links entry := by
  induction tasks with
  | nil => exact fun awaits => awaits
  | cons task rest ih => exact fun awaits => ih (awaits.dispatch task)

/-- The end of a playing is told to the scene in play, since the splash is over. -/
theorem finish_eq (plain : player.Plain) {scene : Scene} (current : player.scene = some scene)
    (playback : PlaybackId) :
    player.finish playback = { player with
      world := (scene.finish playback player.world).2.2
      scene := some (scene.finish playback player.world).2.1 } := by
  have silent : player.splashPlayback = none :=
    plain.resolve_right fun absent => nomatch absent.symm.trans current
  unfold Player.finish withScene
  rw [silent, if_neg (nofun), current]

/-- The end of another playing is told. -/
theorem Awaits.finish (awaits : player.Awaits links entry) (plain : player.Plain)
    {playback : PlaybackId} (other : entry.1 ≠ playback) :
    (player.finish playback).Awaits links entry := by
  obtain ⟨scene, current, same, member⟩ := awaits
  rw [finish_eq plain current]
  refine ⟨_, rfl, (scene.sounds.links_finish playback player.world).trans same, ?_⟩
  exact SoundChain.mem_awaiting_finish.mpr ⟨member, other⟩

theorem Awaits.finishEach (playbacks : List PlaybackId) (others : entry.1 ∉ playbacks) :
    ∀ {player : Player}, player.Plain → player.Awaits links entry →
      (playbacks.foldl Player.finish player).Awaits links entry := by
  induction playbacks with
  | nil => exact fun _ awaits => awaits
  | cons playback rest ih =>
    intro player plain awaits
    obtain ⟨other, others⟩ := not_or.mp (mt List.mem_cons.mpr others)
    exact ih others (plain_finish plain playback) (awaits.finish plain other)

/-- **The end of the playing is told**: the sounds that follow it wait for their turn. -/
theorem Awaits.told (awaits : player.Awaits links entry) (plain : player.Plain)
    (hears : player.Hears lost left) : (player.finish entry.1).Goes links entry := by
  obtain ⟨scene, current, same, member⟩ := awaits
  rw [finish_eq plain current]
  refine ⟨_, rfl, (scene.sounds.links_finish entry.1 player.world).trans same, fun known => ?_, ?_⟩
  · obtain ⟨other, inside, equal⟩ := List.mem_map.mp known
    exact (SoundChain.mem_awaiting_finish.mp inside).2 equal
  · exact SoundChain.continues_finish (hears.tracks scene current) member

/-- They go on waiting when the ends of further playings are told. -/
theorem Goes.finish (goes : player.Goes links entry) (plain : player.Plain) (playback : PlaybackId) :
    (player.finish playback).Goes links entry := by
  obtain ⟨scene, current, same, told, continues⟩ := goes
  rw [finish_eq plain current]
  refine ⟨_, rfl, (scene.sounds.links_finish playback player.world).trans same, fun known => ?_,
    continues.finish playback⟩
  exact told (((scene.sounds.sublist_finish playback player.world).map Prod.fst).subset known)

theorem Goes.finishEach (playbacks : List PlaybackId) :
    ∀ {player : Player}, player.Plain → player.Goes links entry →
      (playbacks.foldl Player.finish player).Goes links entry := by
  induction playbacks with
  | nil => exact fun _ goes => goes
  | cons playback rest ih =>
    exact fun plain goes => ih (plain_finish plain playback) (goes.finish plain playback)

/-! ### One frame -/

/-- In a frame, when some of the ends are told, but not that of the playing. -/
theorem Awaits.afterPlaybacks (awaits : player.Awaits links entry) (plain : player.Plain) (span : Nat)
    {told : List PlaybackId} (others : entry.1 ∉ told) :
    (player.afterPlaybacks span told).Awaits links entry := by
  have begins : (player.during span []).Awaits links entry := awaits
  have during : (player.during span (player.due span)).Awaits links entry :=
    begins.dispatchEach (player.due span)
  exact Awaits.finishEach told others (plain_during plain span) during

/-- **The end of a playing is told in a frame if time has reached it there**, and otherwise the scene
goes on waiting for it. -/
theorem Rests.goes_frame (rests : player.Rests lost) (plain : player.Plain)
    (awaits : player.Awaits links entry) (span : Nat) :
    (player.world.audio.EndsWithin entry.1 span → (player.frame span).Goes links entry) ∧
      (¬ player.world.audio.EndsWithin entry.1 span → (player.frame span).Awaits links entry) := by
  rw [← Audio.mem_finished_update rests.drained, ← rests.ended span]
  constructor
  · intro ends
    obtain ⟨before, after, split, first⟩ := List.eq_append_cons_of_mem ends
    obtain ⟨hears, _⟩ := rests.afterPlaybacks plain span split
    have told := (awaits.afterPlaybacks plain span first).told
      (plain_afterPlaybacks plain span before) hears
    have rest := told.finishEach after
      (plain_finish (plain_afterPlaybacks plain span before) entry.1)
    have whole : (player.beforeMotions span).Goes links entry := by
      unfold beforeMotions Player.afterPlaybacks
      rw [split, List.foldl_append]
      exact rest
    obtain ⟨scene, current, same, told, continues⟩ := whole
    have still := World.timers_tick (player.beforeMotions span).world span
    exact ⟨scene, current, same, told, still ▸ continues⟩
  · intro still
    exact awaits.afterPlaybacks plain span still

/-! ### In every state between two operations -/

/-- A story that is loaded plays nothing yet. -/
theorem rests_ofResources (document : Story.Document) (resources : Asset.Resources)
    (standardClip : Nat) (clips : Table Nat) (viewport : Viewport) (options : SceneOptions) :
    (ofResources document resources (.silent standardClip clips) viewport options).Rests [] := by
  refine ⟨⟨?_, ?_, ?_⟩, rfl⟩
  · exact fun _ none => nomatch none
  · exact fun _ none => nomatch none
  · exact fun _ current => nomatch current

/-- **An awaited playing goes on exactly if no audio effect has cut it off**, in every state between
two operations. Its end is told to the scene in the frame in which time reaches it, and the sounds
that follow it wait for their turn then; a playing that has been cut off has no end, and the scene
goes on waiting for it. -/
theorem continues_iff (document : Story.Document) (resources : Asset.Resources) (standardClip : Nat)
    (clips : Table Nat) (viewport : Viewport) (options : SceneOptions) (operations : List Operation) :
    let first := ofResources document resources (.silent standardClip clips) viewport options
    let player := first.run operations
    ∀ scene, player.scene = some scene →
      ∀ playback link, (playback, link) ∈ scene.sounds.awaiting →
        (player.world.audio.IsActive playback ↔ playback ∉ first.cutRun operations) ∧
          ∀ span,
            (player.world.audio.EndsWithin playback span →
              (player.frame span).Goes scene.sounds.links (playback, link)) ∧
            (¬ player.world.audio.EndsWithin playback span →
              (player.frame span).Awaits scene.sounds.links (playback, link)) := by
  intro first player scene current playback link awaited
  have begins : first.Kept .any :=
    kept_ofResources document resources (.silent standardClip clips) viewport options
  have kept : player.Kept .any := kept_run_any operations begins
  have rests : player.Rests ([] ++ cutRun operations first) :=
    (rests_ofResources document resources standardClip clips viewport options).run operations begins
  rw [List.nil_append] at rests
  refine ⟨?_, fun span => ?_⟩
  · exact (rests.hears.tracks scene current).active (playback, link) awaited List.not_mem_nil
  · exact rests.goes_frame kept.plain ⟨scene, current, rfl, awaited⟩ span

/-! ### A playing that is cut off -/

/-- A story with a sound that follows itself, and a cat that makes the same sound when it is touched. -/
def loopStory : Story.Document where
  style := .standard
  splash := ⟨"s.png", "s.mp3"⟩
  start := "room"
  scenes :=
    [("room", ⟨"bg.png", [⟨some "amb", "a.mp3", 1, some 0, some "amb"⟩],
      [⟨"Cat", "cat.png", ⟨10, 20⟩, none, [("touch", [.audio "a.mp3"])]⟩]⟩)]

/-- A player of that story. -/
def loopPlayer : Player :=
  ofResources loopStory ⟨[("a.mp3", .sound ⟨some 1000000000⟩), ("cat.png", .texture ⟨64, 64⟩)]⟩
    (.silent 3000000000 [("a.mp3", 1000000000)]) ⟨800, 600⟩ .standard

/-- Its scene is entered, the sound begins, and the cat is touched. -/
def loopVisit : List Operation :=
  [.enterScene "room", .frame 10000000, .touch ⟨0⟩]

/-- The sound does not go on any longer, and the scene waits in vain for its end. -/
theorem interrupted_loop :
    ∃ scene, (loopPlayer.run loopVisit).scene = some scene ∧ (⟨1⟩, 0) ∈ scene.sounds.awaiting ∧
      ¬ (loopPlayer.run loopVisit).world.audio.IsActive ⟨1⟩ ∧
        ∀ span, ((loopPlayer.run loopVisit).frame span).Awaits scene.sounds.links (⟨1⟩, 0) := by
  have current := (Option.some_get (by decide +kernel : (loopPlayer.run loopVisit).scene.isSome)).symm
  have awaited : (⟨1⟩, 0) ∈ ((loopPlayer.run loopVisit).scene.get (by decide +kernel)).sounds.awaiting := by
    decide +kernel
  have cut : ⟨1⟩ ∈ loopPlayer.cutRun loopVisit := by
    decide +kernel
  obtain ⟨active, ends⟩ := continues_iff loopStory
    ⟨[("a.mp3", .sound ⟨some 1000000000⟩), ("cat.png", .texture ⟨64, 64⟩)]⟩ 3000000000
    [("a.mp3", 1000000000)] ⟨800, 600⟩ .standard loopVisit _ current ⟨1⟩ 0 awaited
  have silent := fun going => active.mp going cut
  refine ⟨_, current, awaited, silent, fun span => (ends span).2 ?_⟩
  exact fun ⟨voice, speaks, same, _⟩ => silent ⟨voice, speaks, same⟩

end Storybook.Player
