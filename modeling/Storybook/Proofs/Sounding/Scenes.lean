/-
**What a scene silences.**

While a scene is played, its sound chain stops no voice, but the effects of its characters do: when
they are touched, and when they appear again.

* `Scene.touchSounds`, `Scene.pointerSounds`, `Scene.retriggerSounds`: the sounds that are silenced;
* `Scene.silences_touch`, `Scene.silences_pointerUpAt`, `Scene.silences_retrigger`: no others are;
* `Scene.silences_enter`, `Scene.alters_teardown`: the beginning and the end of a scene.
-/

import Storybook.Proofs.Holding.Scenes
import Storybook.Proofs.Sounding.Chains

namespace Storybook.Scene

variable (scene : Scene) (world : World)

/-! ### While a scene is active -/

/-- The sounds that are silenced when a character is touched. -/
def touchSounds (id : CharacterId) : List String :=
  if scene.state = .active then
    match scene.character? id with
    | some character => character.touchSounds
    | none => []
  else
    []

theorem silences_touch (id : CharacterId) :
    Audio.Silences (scene.touchSounds id) world.audio (scene.touch id world).2.2.audio := by
  unfold touchSounds touch
  split
  · cases scene.character? id with
    | some character => exact (character.alters_touch world).toSilences
    | none => exact .refl _
  · exact .refl _

theorem sounds_touch (id : CharacterId) : (scene.touch id world).2.1.sounds = scene.sounds := by
  unfold touch
  split
  · split <;> rfl
  · rfl

/-- The sounds that are silenced when a pointer is lifted at a point. -/
def pointerSounds (x y : Single) : List String :=
  match (world.stage.hitTest x y).bind scene.owner? with
  | some id => scene.touchSounds id
  | none => []

/-- Lifting a pointer touches the character that it is over, if there is one. -/
theorem pointerUpAt_eq (x y : Single) :
    scene.pointerUpAt x y world =
      match (world.stage.hitTest x y).bind scene.owner? with
      | some id => scene.touch id world
      | none => (false, scene, world) := by
  unfold pointerUpAt pointerUp
  cases world.stage.hitTest x y <;> rfl

theorem silences_pointerUpAt (x y : Single) :
    Audio.Silences (scene.pointerSounds world x y) world.audio
      (scene.pointerUpAt x y world).2.2.audio := by
  rw [pointerUpAt_eq]
  unfold pointerSounds
  split
  · exact scene.silences_touch world _
  · exact .refl _

theorem sounds_pointerUpAt (x y : Single) :
    (scene.pointerUpAt x y world).2.1.sounds = scene.sounds := by
  rw [pointerUpAt_eq]
  split
  · exact scene.sounds_touch world _
  · rfl

/-- The sounds that are silenced when a character appears again. -/
def retriggerSounds (id : CharacterId) : List String :=
  if scene.state = .active then
    match scene.character? id with
    | some character => character.appearSounds world scene.binder
    | none => []
  else
    []

theorem silences_retrigger (id : CharacterId) :
    Audio.Silences (scene.retriggerSounds world id) world.audio (scene.retrigger id world).2.audio := by
  unfold retriggerSounds retrigger
  split
  · cases scene.character? id with
    | some character => exact (character.alters_appear world scene.binder).toSilences
    | none => exact .refl _
  · exact .refl _

theorem sounds_retrigger (id : CharacterId) :
    (scene.retrigger id world).1.sounds = scene.sounds := by
  unfold retrigger
  split
  · split <;> rfl
  · rfl

theorem silences_playSound (link : Nat) :
    Audio.Silences [] world.audio (scene.playSound link world).2.audio := by
  unfold playSound
  split
  · exact .refl _
  · exact (scene.sounds.alters_play link world).toSilences

/-- A sound of the scene is played: see `SoundChain.Tracks.play`. -/
theorem tracks_playSound {lost left : List PlaybackId} {scene : Scene} {world : World}
    (tracks : scene.sounds.Tracks lost left world.audio) (numbered : world.audio.Numbered)
    (given : ∀ playback ∈ lost, playback.number ≤ world.audio.issued) (link : Nat) :
    (scene.playSound link world).1.sounds.Tracks lost left (scene.playSound link world).2.audio := by
  unfold playSound
  split
  · exact tracks
  · exact tracks.play numbered given link

theorem links_playSound (link : Nat) :
    (scene.playSound link world).1.sounds.links = scene.sounds.links := by
  unfold playSound
  split
  · rfl
  · exact scene.sounds.links_play link world

theorem mem_awaiting_playSound {scene : Scene} {entry : PlaybackId × Nat}
    (awaited : entry ∈ scene.sounds.awaiting) (link : Nat) (world : World) :
    entry ∈ (scene.playSound link world).1.sounds.awaiting := by
  unfold playSound
  split
  · exact awaited
  · exact SoundChain.mem_awaiting_play awaited link world

/-! ### Beginning and end -/

theorem silences_appearEach (binder : Binder) (characters : List Character) :
    ∀ world : World, ∃ sounds, Audio.Silences sounds world.audio
      (appearEach binder characters world).2.audio := by
  induction characters with
  | nil => exact fun world => ⟨[], .refl world.audio⟩
  | cons character rest ih =>
    intro world
    obtain ⟨later, appeared⟩ := ih (character.appear binder world).2
    exact ⟨_, (character.alters_appear world binder).toSilences.trans appeared⟩

theorem alters_disappearEach (characters : List Character) :
    ∀ world : World, Audio.Alters (characters.flatMap fun character => soundsOf character.bindings.effects)
      [] world.audio (disappearEach characters world).2.audio := by
  induction characters with
  | nil => exact fun world => .refl world.audio
  | cons character rest ih => exact fun world => (character.alters_disappear world).trans (ih _)

/-- The drawing of the background is silent. -/
theorem sounds_drawBackground :
    (scene.drawBackground world).1.sounds = scene.sounds ∧
      (scene.drawBackground world).2.audio = world.audio := by
  unfold drawBackground
  split <;> exact ⟨rfl, rfl⟩

/-- So are the timers that let characters appear again. -/
theorem audio_setRetriggers : (scene.setRetriggers world).2.audio = world.audio := by
  obtain ⟨remarks, same⟩ := scene.remarkRetriggered_eq world
  unfold setRetriggers
  rw [retriggerEach_eq, same]

/-- A scene that is entered silences what its characters do, and waits for no playing yet. -/
theorem silences_enter :
    (∃ sounds, Audio.Silences sounds world.audio (scene.enter world).2.audio) ∧
      (scene.enter world).1.sounds.awaiting = scene.sounds.awaiting := by
  unfold enter
  split
  · let opened := world.remark .info .scene
      s!"Entering scene '{scene.id}' ({scene.characters.length} characters)"
    let started := scene.sounds.start opened
    let drawn := { scene with sounds := started.1 }.drawBackground started.2
    obtain ⟨waits, starts⟩ :=
      SoundChain.awaiting_scheduleAll (SoundChain.roots scene.sounds.links) scene.sounds opened
    obtain ⟨same, silent⟩ := sounds_drawBackground { scene with sounds := started.1 } started.2
    obtain ⟨sounds, shown⟩ := silences_appearEach drawn.1.binder drawn.1.characters drawn.2
    rw [silent.trans starts] at shown
    refine ⟨⟨_, shown.trans (.of_eq (audio_setRetriggers _ _))⟩, ?_⟩
    exact (congrArg SoundChain.awaiting same).trans waits
  · exact ⟨⟨_, .refl _⟩, rfl⟩

/-- The sounds that a scene stops when it is torn down: those that its chain waits for, and those of the
effects of its characters. -/
def leavingSounds : List String :=
  if scene.state = .tornDown then
    []
  else
    (scene.sounds.awaiting.filterMap fun entry => scene.sounds.file? entry.2) ++
      scene.characters.flatMap fun character => soundsOf character.bindings.effects

theorem alters_teardown :
    Audio.Alters scene.leavingSounds [] world.audio (scene.teardown world).2.audio := by
  unfold teardown leavingSounds
  split
  · exact .refl _
  · let cancelled := scene.retriggers.foldl World.cancelTimer world
    have still : cancelled.audio = world.audio := by
      dsimp only [cancelled]
      rw [World.cancelTimers_eq]
    have stopped := scene.sounds.alters_stop cancelled
    rw [still] at stopped
    have whole := stopped.trans (alters_disappearEach scene.characters (scene.sounds.stop cancelled).2)
    cases scene.background <;> exact whole

end Storybook.Scene
