/-
**Which voices outlast a scene.**

A scene that is torn down stops the voices that its chain waits for, and those of the effects of its
characters. The chain does not wait for a sound that nothing follows, so that such a sound outlasts the
scene, unless another one of its sounds stops it by its name. No other voice does.

* `gather`: what is found on the way when inputs are taken one after the other;
* `Player.unwatchedRun`: the playings of sounds that nothing follows, in a run;
* `Player.Sings`: every voice is one of these, or the scene in play minds it;
* `Player.Sings.perform`, `Player.sings_run`: every operation, and every list of operations;
* `Player.outlasts_iff`: the voices that go on when a scene is torn down.

This can happen: one sound that leads to another is enough (`Player.outlasting_chime`).
-/

import Storybook.Proofs.Continuation
import Storybook.Proofs.Sounding.Minding
import Storybook.Proofs.Stances

namespace Storybook

/-! ### What is found on the way -/

section Gather

variable {σ ι β : Type}

/-- What is found on the way when inputs are taken one after the other. -/
def gather (step : σ → ι → σ) (found : σ → ι → List β) : List ι → σ → List β
  | [], _ => []
  | input :: rest, state => found state input ++ gather step found rest (step state input)

/-- What each step keeps, while the list of what is found grows, the whole way keeps. -/
theorem gather_keeps {step : σ → ι → σ} {found : σ → ι → List β} {keeps : List β → σ → Prop}
    (inputs : List ι)
    (each : ∀ input ∈ inputs, ∀ known state, keeps known state →
      keeps (known ++ found state input) (step state input)) :
    ∀ known state, keeps known state →
      keeps (known ++ gather step found inputs state) (inputs.foldl step state) := by
  induction inputs with
  | nil => exact fun known state begins => (List.append_nil known).symm ▸ begins
  | cons input rest ih =>
    intro known state begins
    have next := each input List.mem_cons_self known state begins
    have all := ih (fun other member => each other (List.mem_cons_of_mem _ member)) _ _ next
    rw [List.append_assoc] at all
    exact all

end Gather

namespace Player

variable {free left lost : List PlaybackId} {player next : Player} {scene : Scene}

/-! ### Sounds that nothing follows -/

/-- The playing of a sound that nothing follows, if a task begins one. -/
def unwatchedBy (player : Player) : Task → List PlaybackId
  | .playSound link =>
    match player.scene with
    | some scene => scene.unwatched link player.world
    | none => []
  | _ => []

/-- The playings of sounds that nothing follows, which an operation begins. -/
def unwatched (player : Player) : Operation → List PlaybackId
  | .frame span => gather dispatch unwatchedBy (player.due span) (player.during span [])
  | _ => []

/-- The playings of sounds that nothing follows, which begin in a run. -/
def unwatchedRun (operations : List Operation) (player : Player) : List PlaybackId :=
  gather perform unwatched operations player

/-! ### What is minded -/

/-- The voices that are minded: those that the scene in play stops when it is torn down, or that of the
splash. -/
def Minds (player : Player) : Voice → Prop :=
  match player.scene with
  | some scene => scene.Minds
  | none => fun voice =>
    player.splashPlayback = some voice.id ∧ voice.sound = player.document.splash.sound

theorem minds_eq (current : player.scene = some scene) : player.Minds = scene.Minds := by
  unfold Minds
  rw [current]

theorem minds_iff (absent : player.scene = none) {voice : Voice} : player.Minds voice ↔
    player.splashPlayback = some voice.id ∧ voice.sound = player.document.splash.sound := by
  unfold Minds
  rw [absent]

/-- Every voice is minded, but for those of `free`, and the playings of `left` are over. -/
def Sings (free left : List PlaybackId) (player : Player) : Prop :=
  player.world.audio.Minded free left player.Minds

/-! ### Within a scene -/

/-- What is asked of the scene in play. -/
theorem Sings.askScene (sings : player.Sings free left) {change : Scene → World → Bool × Scene × World}
    (keeps : ∀ scene : Scene, player.world.audio.Minded free left scene.Minds →
      (change scene player.world).2.2.audio.Minded free left (change scene player.world).2.1.Minds) :
    (player.askScene change).2.Sings free left := by
  unfold Player.askScene
  split
  · rename_i scene current
    exact keeps scene (minds_eq current ▸ sings)
  · exact sings

/-- What a task does to the scene in play. -/
theorem Sings.withScene {told : List PlaybackId} (sings : player.Sings free left)
    {change : Scene → World → Scene × World}
    (keeps : ∀ scene, player.scene = some scene → player.world.audio.Minded free left scene.Minds →
      (change scene player.world).2.audio.Minded told left (change scene player.world).1.Minds)
    (same : player.scene = none → told = free) : (player.withScene change).Sings told left := by
  unfold Player.withScene
  split
  · rename_i scene current
    exact keeps scene current (minds_eq current ▸ sings)
  · rename_i absent
    exact same absent ▸ sings

theorem Sings.touch (sings : player.Sings free left) (id : CharacterId) :
    (player.touch id).2.Sings free left :=
  sings.askScene fun _ minded => Scene.minded_touch minded id

theorem Sings.touchEach (ids : List CharacterId) :
    ∀ {player : Player}, player.Sings free left → (Player.touchEach ids player).2.Sings free left := by
  induction ids with
  | nil => exact fun sings => sings
  | cons id rest ih => exact fun sings => ih (sings.touch id)

theorem Sings.touchNamed (sings : player.Sings free left) (name : String) :
    (player.touchNamed name).2.Sings free left := by
  unfold Player.touchNamed
  split
  · exact sings.touchEach _
  · exact sings

theorem Sings.pointerUpAt (sings : player.Sings free left) (x y : Single) :
    (player.pointerUpAt x y).2.Sings free left :=
  sings.askScene fun _ minded => Scene.minded_pointerUpAt minded x y

/-- **A task is done**: the only voice that nobody minds is that of a sound that nothing follows. -/
theorem Sings.dispatch (sings : player.Sings free left) (task : Task) :
    (player.dispatch task).Sings (free ++ player.unwatchedBy task) left := by
  have same : free ++ [] = free := List.append_nil free
  cases task with
  | playSound link =>
    refine sings.withScene (fun scene current minded => ?_) fun absent => ?_
    · unfold unwatchedBy
      rw [current]
      exact Scene.minded_playSound minded link
    · unfold unwatchedBy
      rw [absent]
      exact same
  | startMotion tick motion => exact same.symm ▸ sings
  | retrigger id =>
    exact same.symm ▸ sings.withScene (fun _ _ minded => Scene.minded_retrigger minded id) fun _ => rfl

/-! ### Scenes come and go -/

/-- **When a scene is left and the splash is cleared**, all voices that were minded are stopped. -/
theorem Sings.clear (sings : player.Sings free left) :
    player.leaveScene.clearSplash.world.audio.Minded free left fun _ => False := by
  have cleared := player.leaveScene.alters_clearSplash
  cases current : player.scene with
  | some scene =>
    have gone : player.leaveScene.world.audio.Minded free left fun _ => False := by
      unfold leaveScene
      rw [current]
      exact Scene.minded_teardown (minds_eq current ▸ sings)
    exact gone.alter cleared (fun _ _ known _ => known) nofun
  | none =>
    have still : player.leaveScene = player := by
      unfold leaveScene
      rw [current]
    rw [still] at cleared ⊢
    refine Audio.Minded.alter sings cleared (fun voice _ known spared => ?_) nofun
    obtain ⟨awaited, about⟩ := (minds_iff current).mp known
    unfold splashSounds at spared
    rw [awaited, about] at spared
    exact spared (List.mem_singleton_self _)

theorem Sings.enterSpec (sings : player.Sings free left) (id : String) (spec : Story.Scene) :
    (player.enterSpec id spec).Sings free left :=
  Scene.minded_enter (rfl : (Scene.ofSpec id spec _ _).state = .uninitialized) sings.clear

theorem Sings.enterScene (sings : player.Sings free left) (id : String) :
    (player.enterScene id).2.Sings free left :=
  enterScene_cases sings fun spec _ => sings.enterSpec id spec

theorem Sings.shutdown (sings : player.Sings free left) : player.shutdown.Sings free left :=
  sings.clear.mono fun _ => False.elim

/-- The end of the splash is told: no voice of it is left. -/
theorem Sings.endSplash (sings : player.Sings free left) {playback : PlaybackId} (told : playback ∈ left)
    (awaited : player.splashPlayback = some playback) : player.endSplash.Sings free left := by
  cases current : player.scene with
  | some scene =>
    have still : player.endSplash.scene = some scene := current
    unfold Sings
    rw [minds_eq still, ← minds_eq current]
    exact sings
  | none =>
    refine Audio.Minded.alter sings (.refl _) (fun voice speaks known _ => ?_) nofun
    have own := Option.some.inj (awaited.symm.trans ((minds_iff current).mp known).1)
    exact absurd ⟨voice, speaks, own.symm⟩ (sings.ended playback told).2

/-- **The end of a playing is told.** -/
theorem Sings.finish (sings : player.Sings free left) {playback : PlaybackId} (told : playback ∈ left) :
    (player.finish playback).Sings free left := by
  unfold Player.finish
  split
  · rename_i awaited
    have ended := sings.endSplash told awaited
    exact leaveSplash_cases (fun _ => ended) fun spec _ => ended.enterSpec _ spec
  · exact sings.withScene (fun _ _ minded => Scene.minded_finish minded told) fun _ => rfl

/-! ### Operations -/

/-- **A frame**: only its tasks begin playings that nobody minds. -/
theorem Sings.frame (sings : player.Sings free []) (rests : player.Rests lost) (span : Nat) :
    (player.frame span).Sings (free ++ player.unwatched (.frame span)) [] := by
  have begins : (player.during span []).Sings free (player.world.audio.update span).finished :=
    Audio.Minded.update sings rests.drained span
  rw [← rests.ended span] at begins
  have each : ∀ task ∈ player.due span, ∀ known (middle : Player), middle.Sings known (player.ended span) →
      (middle.dispatch task).Sings (known ++ middle.unwatchedBy task) (player.ended span) :=
    fun task _ _ _ sings => sings.dispatch task
  have done := gather_keeps (player.due span) each free _ begins
  have taken : (player.afterPlaybacks span []).Sings (free ++ player.unwatched (.frame span))
      (player.ended span) :=
    Audio.Minded.drain done
  have told : (player.beforeMotions span).Sings (free ++ player.unwatched (.frame span))
      (player.ended span) :=
    List.foldlRecOn (player.ended span) Player.finish taken fun _ sings _ member => sings.finish member
  have silent := World.audio_tick (player.beforeMotions span).world span
  exact told.forget.alter (.of_eq silent) (fun _ _ known _ => known) nofun

/-- The voice of the splash is minded until it has ended. -/
theorem sings_playSplash (absent : player.scene = none)
    (minded : player.world.audio.Minded free left fun _ => False) : player.playSplash.Sings free left := by
  have waits : player.playSplash.scene = none := absent
  have played : player.playSplash.world.audio.Minded (free ++ []) left player.playSplash.Minds :=
    minded.play _ (fun _ => False.elim) fun _ same about =>
      Or.inr ((minds_iff waits).mpr ⟨congrArg some same.symm, about⟩)
  rw [List.append_nil] at played
  exact played

theorem Sings.start {gone : Losses} (sings : player.Sings free left) (kept : player.Kept gone) :
    player.start.2.Sings free left := by
  have bare (loaded : player.phase = .loaded) :
      player.scene = none ∧ player.showSplash.world.audio.Minded free left fun _ => False := by
    obtain ⟨waits, mute⟩ := kept.waits_of_loaded loaded
    rw [audio_showSplash]
    refine ⟨waits.scene, sings.mono fun voice known => ?_⟩
    cases mute.symm.trans ((minds_iff waits.scene).mp known).1
  refine start_cases (fun _ => sings) (fun loaded _ _ => ?_) fun loaded _ => ?_
  · exact sings_playSplash (player.scene_showSplash.trans (bare loaded).1) (bare loaded).2
  · have skipped : player.skipSplash.Sings free left := (bare loaded).2.mono fun _ => False.elim
    exact skipped.enterScene _

/-- **Every operation**: the voices that nobody minds are of sounds that nothing follows. -/
theorem Sings.perform {gone : Losses} (sings : player.Sings free []) (kept : player.Kept gone)
    (rests : player.Rests lost) (operation : Operation) :
    (player.perform operation).Sings (free ++ player.unwatched operation) [] := by
  have same : free ++ [] = free := List.append_nil free
  cases operation with
  | start => exact same.symm ▸ sings.start kept
  | enterScene id => exact same.symm ▸ sings.enterScene id
  | frame span => exact sings.frame rests span
  | touch id => exact same.symm ▸ sings.touch id
  | touchNamed name => exact same.symm ▸ sings.touchNamed name
  | pointerUpAt x y => exact same.symm ▸ sings.pointerUpAt x y
  | render viewport => exact same.symm ▸ sings
  | destroy sprite => exact same.symm ▸ sings
  | shutdown => exact same.symm ▸ sings.shutdown

/-- **Every run.** -/
theorem sings_run (operations : List Operation) (kept : player.Kept .any)
    (rests : player.Rests lost) (sings : player.Sings [] []) :
    (player.run operations).Sings (player.unwatchedRun operations) [] := by
  have each : ∀ operation ∈ operations, ∀ known (middle : Player),
      (middle.Sings known [] ∧ middle.Kept .any ∧ ∃ lost, middle.Rests lost) →
        (middle.perform operation).Sings (known ++ middle.unwatched operation) [] ∧
          (middle.perform operation).Kept .any ∧ ∃ lost, (middle.perform operation).Rests lost := by
    rintro operation - known middle ⟨sings, kept, lost, rests⟩
    exact ⟨sings.perform kept rests operation, kept_perform kept (middle.losesOnly_any operation), _,
      rests.perform kept operation⟩
  exact (gather_keeps operations each [] player ⟨sings, kept, lost, rests⟩).1

/-! ### What outlasts a scene -/

/-- A story that is loaded is silent. -/
theorem sings_ofResources (document : Story.Document) (resources : Asset.Resources)
    (standardClip : Nat) (clips : Table Nat) (viewport : Viewport) (options : SceneOptions) :
    (ofResources document resources (.silent standardClip clips) viewport options).Sings [] [] := by
  refine ⟨⟨?_, .nil⟩, nofun, ?_⟩
  · exact fun _ none => nomatch none
  · exact fun _ none => nomatch none

/-- Where a scene is played, there is no sound of a splash to be stopped. -/
theorem audio_clear (plain : player.Plain) (current : player.scene = some scene) :
    player.leaveScene.clearSplash.world.audio = (scene.teardown player.world).2.audio := by
  have silent : player.splashPlayback = none :=
    plain.resolve_right fun absent => nomatch absent.symm.trans current
  unfold clearSplash leaveScene
  rw [current]
  dsimp only
  rw [silent]
  cases player.splashSprite <;> rfl

/-- **The voices that outlast a scene are those of sounds that nothing follows**, unless the scene stops
their sound for another reason. All other voices are stopped, be they of its sound chain or of its
characters. The splash adds nothing to that: what is heard then is heard when the player has been shut
down, or enters another scene. -/
theorem outlasts_iff (document : Story.Document) (resources : Asset.Resources) (standardClip : Nat)
    (clips : Table Nat) (viewport : Viewport) (options : SceneOptions) (operations : List Operation) :
    let first := ofResources document resources (.silent standardClip clips) viewport options
    let player := first.run operations
    ∀ scene, player.scene = some scene →
      player.leaveScene.clearSplash.world.audio = (scene.teardown player.world).2.audio ∧
        ∀ voice, voice ∈ (scene.teardown player.world).2.audio.voices ↔
          voice ∈ player.world.audio.voices ∧ voice.id ∈ first.unwatchedRun operations ∧
            voice.sound ∉ scene.leavingSounds := by
  intro first player scene current
  have begins : first.Kept .any := kept_ofResources document resources
    (.silent standardClip clips) viewport options
  have kept : player.Kept .any := kept_run_any operations begins
  have sings : player.Sings (first.unwatchedRun operations) [] :=
    sings_run operations begins (rests_ofResources document resources standardClip clips viewport options)
      (sings_ofResources document resources standardClip clips viewport options)
  have minded : player.world.audio.Minded (first.unwatchedRun operations) [] scene.Minds :=
    minds_eq current ▸ sings
  have alters := scene.alters_teardown player.world
  refine ⟨audio_clear kept.plain current, fun voice => ⟨fun goes => ?_, ?_⟩⟩
  · have before := (alters.sounds voice goes).resolve_right List.not_mem_nil
    have spared := (alters.old goes (minded.ordered.numbered voice before)).2
    refine ⟨before, (minded.minded voice before).resolve_right fun known => ?_, spared⟩
    exact spared (Scene.mem_leavingSounds known)
  · exact fun ⟨speaks, _, spared⟩ => alters.spared voice speaks spared

/-! ### A sound that outlasts its scene -/

/-- A story with a sound that leads to another one, which nothing follows. -/
def chimeStory : Story.Document where
  style := .standard
  splash := ⟨"s.png", "s.mp3"⟩
  start := "room"
  scenes := [("room", ⟨"bg.png",
    [⟨some "a", "a.mp3", 1, some 0, some "b"⟩, ⟨some "b", "b.mp3", 1, none, none⟩], []⟩)]

/-- A player of that story. -/
def chimePlayer : Player :=
  ofResources chimeStory ⟨[("a.mp3", .sound ⟨some 1000000000⟩), ("b.mp3", .sound ⟨none⟩)]⟩
    (.silent 3000000000 [("a.mp3", 1000000000)]) ⟨800, 600⟩ .standard

/-- Its scene is entered, the first sound plays to its end, and the second one begins. -/
def chimeVisit : List Operation :=
  [.enterScene "room", .frame 10000000, .frame 1000000000, .frame 10000000]

/-- The second sound goes on when the player is shut down. -/
theorem outlasting_chime :
    ∃ scene, (chimePlayer.run chimeVisit).scene = some scene ∧
      ⟨⟨2⟩, "b.mp3", 4020000000⟩ ∈ (chimePlayer.run chimeVisit).shutdown.world.audio.voices := by
  have current := (Option.some_get (by decide +kernel : (chimePlayer.run chimeVisit).scene.isSome)).symm
  obtain ⟨same, goes⟩ := outlasts_iff chimeStory
    ⟨[("a.mp3", .sound ⟨some 1000000000⟩), ("b.mp3", .sound ⟨none⟩)]⟩ 3000000000
    [("a.mp3", 1000000000)] ⟨800, 600⟩ .standard chimeVisit _ current
  refine ⟨_, current, ?_⟩
  refine same.symm ▸ (goes _).mpr ⟨?_, ?_, ?_⟩ <;> decide +kernel

end Player

end Storybook
