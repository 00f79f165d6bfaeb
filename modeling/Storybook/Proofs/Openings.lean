/-
**How scenes are entered.**

A scene is entered when it is asked for, when a story starts whose splash has no sound, and when the sound of
the splash has ended. Each of these fails where the story does not have the scene. What can come of them is
listed here once, so that whatever is to hold of a player afterwards is shown outcome by outcome.

* `Player.enterScene_eq_ok`, `Player.enterScene_eq_error`, `Player.enterScene_cases`: a scene is asked for;
* `Player.start_late`, `Player.start_splash`, `Player.start_enters`, `Player.start_misses`, `Player.start_cases`:
  the story is started;
* `Player.leaveSplash_cases`: the sound of the splash has ended;
* `Player.enterScene_fails_iff`, `Player.enterScene_failed`: a scene is not entered exactly if the story does
  not have it, and then nothing has changed.
-/

import Storybook.Play.Player

namespace Storybook.Player

variable {player : Player} {id : String} {spec : Story.Scene} {motive : Player → Prop}

/-! ### A scene is asked for -/

theorem enterScene_eq_ok (found : player.document.scene? id = some spec) :
    player.enterScene id = (.ok (), player.enterSpec id spec) := by
  unfold enterScene
  rw [found]

theorem enterScene_eq_error (missing : player.document.scene? id = none) :
    player.enterScene id = (.error ⟨id⟩, player) := by
  unfold enterScene
  rw [missing]

/-- What holds of a player, and of it in the scene if the story has the scene, holds after the scene was
asked for. -/
theorem enterScene_cases (stays : motive player)
    (enters : ∀ spec, player.document.scene? id = some spec → motive (player.enterSpec id spec)) :
    motive (player.enterScene id).2 := by
  cases found : player.document.scene? id with
  | none =>
    rw [enterScene_eq_error found]
    exact stays
  | some spec =>
    rw [enterScene_eq_ok found]
    exact enters spec found

/-- A scene is not entered exactly if the story does not have it. -/
theorem enterScene_fails_iff (player : Player) (id : String) :
    (∃ fault, (player.enterScene id).1 = .error fault) ↔ id ∉ player.document.scenes.map Prod.fst := by
  cases found : player.document.scene? id with
  | none =>
    rw [enterScene_eq_error found]
    refine ⟨fun _ member => ?_, fun _ => ⟨_, rfl⟩⟩
    obtain ⟨entry, inside, rfl⟩ := List.mem_map.mp member
    have other := List.lookup_eq_none_iff.mp found entry inside
    simp at other
  | some spec =>
    rw [enterScene_eq_ok found]
    obtain ⟨before, after, split, _⟩ := List.lookup_eq_some_iff.mp found
    refine ⟨nofun, fun absent => absurd ?_ absent⟩
    rw [split, List.map_append]
    exact List.mem_append_right _ List.mem_cons_self

/-- **A scene that is not entered leaves everything as it was.** -/
theorem enterScene_failed {fault : NoScene} (failed : (player.enterScene id).1 = .error fault) :
    (player.enterScene id).2 = player := by
  cases found : player.document.scene? id with
  | none => rw [enterScene_eq_error found]
  | some spec =>
    rw [enterScene_eq_ok found] at failed
    cases failed

/-! ### The story is started -/

/-- The player as it enters the start scene without a splash, because its sound is not loaded. -/
def skipSplash (player : Player) : Player :=
  { player.showSplash with
    world := player.showSplash.world.remark .warn .player
      s!"Splash sound '{player.document.splash.sound}' is not loaded, skipping splash" }

/-- The player where a story is started that was started before. -/
def refuseStart (player : Player) : Player :=
  { player with world := player.world.remark .warn .player "Story already started" }

/-- Only the stage changes where the picture of the splash is shown, and the handle of the picture. -/
theorem showSplash_eq (player : Player) : player.showSplash =
    { player with
      world := { player.world with stage := player.showSplash.world.stage }
      splashSprite := player.showSplash.splashSprite } := by
  unfold showSplash
  dsimp only
  split <;> rfl

theorem document_showSplash (player : Player) : player.showSplash.document = player.document := by
  rw [showSplash_eq]

theorem resources_showSplash (player : Player) :
    player.showSplash.world.resources = player.world.resources := by
  rw [showSplash_eq]

theorem audio_showSplash (player : Player) : player.showSplash.world.audio = player.world.audio := by
  rw [showSplash_eq]

theorem scene_showSplash (player : Player) : player.showSplash.scene = player.scene := by
  rw [showSplash_eq]

theorem start_late (late : player.phase ≠ .loaded) : player.start = (.ok (), player.refuseStart) := by
  unfold start
  rw [if_neg late]
  rfl

/-- A story whose splash has a sound starts with it. -/
theorem start_splash (loaded : player.phase = .loaded) {clip : Asset.Clip}
    (found : player.world.resources.sound? player.document.splash.sound = some clip) :
    player.start = (.ok (), player.showSplash.playSplash) := by
  unfold start
  rw [if_pos loaded]
  dsimp only
  rw [player.resources_showSplash, found]

/-- A story that starts without a splash enters its start scene. -/
theorem start_mute (loaded : player.phase = .loaded)
    (mute : player.world.resources.sound? player.document.splash.sound = none) :
    player.start = player.skipSplash.enterScene player.document.start := by
  unfold start
  rw [if_pos loaded]
  dsimp only
  rw [player.resources_showSplash, mute]
  exact congrArg player.skipSplash.enterScene (congrArg Story.Document.start player.document_showSplash)

/-- A story that starts without a splash is in its start scene at once. -/
theorem start_enters (loaded : player.phase = .loaded)
    (mute : player.world.resources.sound? player.document.splash.sound = none)
    (found : player.document.scene? player.document.start = some spec) :
    player.start = (.ok (), player.skipSplash.enterSpec player.document.start spec) := by
  have document : player.skipSplash.document = player.document := player.document_showSplash
  rw [start_mute loaded mute]
  refine enterScene_eq_ok ?_
  rw [document]
  exact found

/-- A story without its start scene has shown its splash when it fails to start. -/
theorem start_misses (loaded : player.phase = .loaded)
    (mute : player.world.resources.sound? player.document.splash.sound = none)
    (missing : player.document.scene? player.document.start = none) :
    player.start = (.error ⟨player.document.start⟩, player.skipSplash) := by
  have document : player.skipSplash.document = player.document := player.document_showSplash
  rw [start_mute loaded mute]
  refine enterScene_eq_error ?_
  rw [document]
  exact missing

/-- What can come of the start of a story. -/
theorem start_cases (late : player.phase ≠ .loaded → motive player.refuseStart)
    (splash : player.phase = .loaded → ∀ clip,
      player.world.resources.sound? player.document.splash.sound = some clip →
        motive player.showSplash.playSplash)
    (mute : player.phase = .loaded →
      player.world.resources.sound? player.document.splash.sound = none →
        motive (player.skipSplash.enterScene player.document.start).2) :
    motive player.start.2 := by
  by_cases loaded : player.phase = .loaded
  · cases found : player.world.resources.sound? player.document.splash.sound with
    | none =>
      rw [start_mute loaded found]
      exact mute loaded found
    | some clip =>
      rw [start_splash loaded found]
      exact splash loaded clip found
  · rw [start_late loaded]
    exact late loaded

/-! ### The sound of the splash has ended -/

/-- The player as it enters the start scene after the splash. -/
def endSplash (player : Player) : Player :=
  { player with
    world := player.world.report .splashFinished
    splashPlayback := none }

/-- The player where the start scene is missing after the splash. -/
def missStart (player : Player) : Player :=
  { player.endSplash with
    world := player.endSplash.world.remark .error .player
      s!"Failed to enter start scene: {(NoScene.mk player.document.start).message}" }

theorem leaveSplash_eq_enterSpec (found : player.document.scene? player.document.start = some spec) :
    player.leaveSplash = player.endSplash.enterSpec player.document.start spec := by
  have entered : player.endSplash.enterScene player.document.start =
      (.ok (), player.endSplash.enterSpec player.document.start spec) := enterScene_eq_ok found
  unfold endSplash at entered
  unfold leaveSplash
  dsimp only at entered ⊢
  rw [entered]
  rfl

theorem leaveSplash_eq_missStart (missing : player.document.scene? player.document.start = none) :
    player.leaveSplash = player.missStart := by
  have failed : player.endSplash.enterScene player.document.start =
      (.error ⟨player.document.start⟩, player.endSplash) := enterScene_eq_error missing
  unfold endSplash at failed
  unfold leaveSplash
  dsimp only at failed ⊢
  rw [failed]
  rfl

/-- What can come of the end of the splash. -/
theorem leaveSplash_cases
    (misses : player.document.scene? player.document.start = none → motive player.missStart)
    (enters : ∀ spec, player.document.scene? player.document.start = some spec →
      motive (player.endSplash.enterSpec player.document.start spec)) :
    motive player.leaveSplash := by
  cases found : player.document.scene? player.document.start with
  | none =>
    rw [leaveSplash_eq_missStart found]
    exact misses found
  | some spec =>
    rw [leaveSplash_eq_enterSpec found]
    exact enters spec found

end Storybook.Player
