/-
**A play leaves nothing behind.**

Whatever is done with a player, no sprite, no motion and no timer is left when it is shut down, nor
between the scene that it leaves and the scene that it enters next.

* `Player.Enters`: the states in which an operation enters a scene;
* `Player.isBare_of_enters`: the stage, the motions and the timers are empty then, where no start has failed;
* `Player.leaves_nothing`: so they are in every play of a story that was read.

This holds because every operation leaves the player in a state where all that there is has a holder or
an owner (`Player.kept_run_neverRestarts`), and because the scene and the splash let go of everything at
their end (`Player.isBare_clear`).
-/

import Storybook.Proofs.Lifecycle
import Storybook.Proofs.Restarting

namespace Storybook.Player

variable {lost : Losses}

/-! ### The entering of scenes -/

/-- An operation enters a scene, and the second player is the state in which it does: a scene is
asked for, or a story starts without a splash, or in a frame the sound of the splash has ended. -/
inductive Enters (player : Player) : Operation → Player → Prop
  | asked (id : String) : player.Enters (.enterScene id) player
  | started (loaded : player.phase = .loaded)
      (mute : player.world.resources.sound? player.document.splash.sound = none) :
      player.Enters .start player.skipSplash
  | splashed (span : Nat) (before : List PlaybackId) (playback : PlaybackId)
      (after : List PlaybackId) (ended : player.ended span = before ++ playback :: after)
      (awaited : (player.afterPlaybacks span before).splashPlayback = some playback) :
      player.Enters (.frame span) (player.afterPlaybacks span before).endSplash

/-- Where a scene is entered, there is nothing left to be kept but the scene and the splash. -/
theorem waits_of_enters {player entering : Player} {operation : Operation}
    (kept : player.Kept lost) (fresh : player.Fresh) (enters : player.Enters operation entering) :
    entering.leaveScene.Waits lost := by
  cases enters with
  | asked id => exact waits_leaveScene kept
  | started loaded mute =>
    have waits := waits_showSplash (kept.waits_of_loaded loaded).1 fun sprite shown =>
      nomatch (fresh loaded).symm.trans shown
    exact (waits_skipSplash waits).leave
  | splashed span before playback after ended awaited =>
    cases kept with
    | waiting waits plain =>
      cases kept_afterPlaybacks waits plain span before with
      | waiting waits => exact (waits_endSplash waits).leave
      | playing scene shows => cases awaited.symm.trans shows.playback
    | playing scene shows active kept =>
      obtain ⟨_, _, shows, _⟩ := midway_afterPlaybacks shows active kept span before
      cases awaited.symm.trans shows.playback

/-! ### Nothing is left -/

theorem isBare_of_enters {player entering : Player} {operation : Operation} (kept : player.Kept .outside)
    (fresh : player.Fresh) (enters : player.Enters operation entering) :
    entering.leaveScene.clearSplash.world.IsBare :=
  isBare_clear (waits_of_enters kept fresh enters) fun _ => not_false

/-- **A play leaves nothing behind**: there is no sprite, no motion and no timer once the player is
shut down, nor, wherever an operation enters a scene, once the old scene is torn down and the splash
is cleared. Sprites may be taken away from outside at any time. -/
theorem leaves_nothing {text : String} {document : Story.Document}
    (read : Story.Document.ofJson text = .ok document) (resources : Asset.Resources) (audio : Audio)
    (viewport : Viewport) (options : SceneOptions) (operations : List Operation) :
    let player := (ofResources document resources audio viewport options).run operations
    player.shutdown.world.IsBare ∧
      ∀ (operation : Operation) (entering : Player), player.Enters operation entering →
        entering.leaveScene.clearSplash.world.IsBare := by
  have starts := Story.Document.starts_of_ofJson read
  have kept := kept_run_neverRestarts
    (neverRestarts_of_starts starts resources audio viewport options operations)
    (kept_ofResources document resources audio viewport options)
  have fresh : ((ofResources document resources audio viewport options).run operations).Fresh :=
    Fresh.run operations (fun _ => rfl) (Or.inl starts)
  exact ⟨isBare_shutdown kept, fun _ _ => isBare_of_enters kept fresh⟩

/-- The splash is shown and ends in a room, whose background is taken away from outside. -/
def roomStay : List Operation :=
  [.start, .frame 3000000000, .destroy ⟨2⟩, .enterScene "room"]

/-- The room is shown again then, and nothing is left of it in the end. -/
theorem leaves_nothing_roomStay :
    let player := (ofResources roomStory
      ⟨[("s.mp3", .sound ⟨none⟩), ("s.png", .texture ⟨64, 64⟩), ("room.png", .texture ⟨800, 600⟩)]⟩
      (.silent 3000000000 []) ⟨800, 600⟩ .standard).run roomStay
    Story.Document.ofJson roomText = .ok roomStory ∧ player.world.stage.keys = [⟨3⟩] ∧
      player.shutdown.world.IsBare ∧ player.leaveScene.clearSplash.world.IsBare := by
  have read : Story.Document.ofJson roomText = .ok roomStory := by
    decide +kernel
  obtain ⟨bare, entering⟩ := leaves_nothing read
    ⟨[("s.mp3", .sound ⟨none⟩), ("s.png", .texture ⟨64, 64⟩), ("room.png", .texture ⟨800, 600⟩)]⟩
    (.silent 3000000000 []) ⟨800, 600⟩ .standard roomStay
  exact ⟨read, by decide +kernel, bare, entering _ _ (.asked "room")⟩

end Storybook.Player
