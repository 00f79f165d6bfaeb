/-
**Scenes are entered alike.**

A scene that is entered in two worlds that mirror each other is the same in both up to the names of its
handles, and the worlds mirror each other again.

* `World.Mirrors.enterSounds`, `World.Mirrors.drawBackground`, `World.Mirrors.enterCharacters`,
  `World.Mirrors.setRetriggers`: each part of an entry;
* `World.Mirrors.enter`: the entry.
-/

import Storybook.Proofs.Mirroring.Cast
import Storybook.Proofs.Working

namespace Storybook

namespace World.Mirrors

variable {lag : Lag} {past : List Event} {first second : World}

/-! ### Sounds -/

theorem scheduleSound (mirrors : first.Mirrors lag past second) (chain : SoundChain) (link : Nat) :
    ((chain.rename lag.names).schedule link second).1 =
        (chain.schedule link first).1.rename lag.names ∧
      (chain.schedule link first).2.Mirrors lag past
        ((chain.rename lag.names).schedule link second).2 := by
  obtain ⟨timer, scheduled⟩ := mirrors.schedule
    (Span.millis ((chain.links[link]?.bind Story.Sound.wait).getD 0)) (.playSound link)
  have pending := congrArg (fun timer => { chain.rename lag.names with
    pending := chain.pending.map lag.names.timer ++ [timer] }) timer
  refine ⟨pending.trans ?_, scheduled⟩
  unfold SoundChain.schedule SoundChain.rename
  dsimp only
  rw [List.map_append]
  rfl

theorem scheduleSounds (links : List Nat) :
    ∀ (chain : SoundChain) {first second : World}, first.Mirrors lag past second →
      ((chain.rename lag.names).scheduleAll links second).1 =
          (chain.scheduleAll links first).1.rename lag.names ∧
        (chain.scheduleAll links first).2.Mirrors lag past
          ((chain.rename lag.names).scheduleAll links second).2 := by
  induction links with
  | nil => exact fun chain _ _ mirrors => ⟨rfl, mirrors⟩
  | cons link rest ih =>
    intro chain first second mirrors
    obtain ⟨same, scheduled⟩ := mirrors.scheduleSound chain link
    have further := ih (chain.schedule link first).1 scheduled
    rw [← same] at further
    exact further

theorem startSounds (mirrors : first.Mirrors lag past second) (chain : SoundChain) :
    ((chain.rename lag.names).start second).1 = (chain.start first).1.rename lag.names ∧
      (chain.start first).2.Mirrors lag past ((chain.rename lag.names).start second).2 :=
  scheduleSounds (SoundChain.roots chain.links) chain mirrors

theorem enterSounds (mirrors : first.Mirrors lag past second) (scene : Scene) :
    ((scene.rename lag.names).enterSounds second).1 =
        (scene.enterSounds first).1.rename lag.names ∧
      (scene.enterSounds first).2.Mirrors lag past
        ((scene.rename lag.names).enterSounds second).2 := by
  obtain ⟨same, started⟩ := mirrors.startSounds scene.sounds
  exact ⟨congrArg (fun sounds => { scene.rename lag.names with sounds }) same, started⟩

/-! ### The background -/

theorem drawBackground (mirrors : first.Mirrors lag past second) (scene : Scene) :
    ((scene.rename lag.names).drawBackground second).1 =
        (scene.drawBackground first).1.rename lag.names ∧
      (scene.drawBackground first).2.Mirrors lag past
        ((scene.rename lag.names).drawBackground second).2 := by
  unfold Scene.drawBackground
  rw [mirrors.resources, show (scene.rename lag.names).backgroundImage = scene.backgroundImage from rfl]
  cases first.resources.texture? scene.backgroundImage with
  | none => exact ⟨rfl, mirrors.remark _ _ _ _ _ _⟩
  | some texture =>
    obtain ⟨same, created⟩ := mirrors.createSprite (Sprite.ofTexture scene.backgroundImage texture)
    dsimp only
    rw [same]
    exact ⟨rfl, created.attachSprite _⟩

/-! ### Characters -/

/-- **Characters that are not on the stage appear alike**, in order. -/
theorem appearEach (binder : Binder) (characters : List Character) :
    ∀ {first second : World}, first.Mirrors lag past second →
      (∀ character ∈ characters, character.sprite = none) →
      (Scene.appearEach binder (characters.map (Character.rename lag.names)) second).1 =
          (Scene.appearEach binder characters first).1.map (Character.rename lag.names) ∧
        (Scene.appearEach binder characters first).2.Mirrors lag past
          (Scene.appearEach binder (characters.map (Character.rename lag.names)) second).2 := by
  induction characters with
  | nil => exact fun mirrors _ => ⟨rfl, mirrors⟩
  | cons character rest ih =>
    intro first second mirrors absent
    obtain ⟨here, later⟩ := List.forall_mem_cons.mp absent
    obtain ⟨same, appeared⟩ := mirrors.appear here binder
    obtain ⟨others, all⟩ := ih appeared later
    rw [List.map_cons, Scene.appearEach, Scene.appearEach]
    exact ⟨congrArg₂ List.cons same others, all⟩

theorem enterCharacters (mirrors : first.Mirrors lag past second) {scene : Scene}
    (absent : ∀ character ∈ scene.characters, character.sprite = none) :
    ((scene.rename lag.names).enterCharacters second).1 =
        (scene.enterCharacters first).1.rename lag.names ∧
      (scene.enterCharacters first).2.Mirrors lag past
        ((scene.rename lag.names).enterCharacters second).2 := by
  obtain ⟨same, appeared⟩ := mirrors.appearEach scene.binder scene.characters absent
  exact ⟨congrArg (fun characters => { scene.rename lag.names with characters }) same, appeared⟩

/-! ### Timers for appearing again -/

theorem retriggerEach (span : Nat) (characters : List CharacterId) :
    ∀ {first second : World}, first.Mirrors lag past second →
      (Scene.retriggerEach span characters second).1 =
          (Scene.retriggerEach span characters first).1.map lag.names.timer ∧
        (Scene.retriggerEach span characters first).2.Mirrors lag past
          (Scene.retriggerEach span characters second).2 := by
  induction characters with
  | nil => exact fun mirrors => ⟨rfl, mirrors⟩
  | cons character rest ih =>
    intro first second mirrors
    obtain ⟨timer, repeated⟩ := mirrors.insert (Period.ofSpan span).length
      (some (Period.ofSpan span)) (.retrigger character)
    obtain ⟨others, all⟩ := ih repeated
    rw [Scene.retriggerEach, Scene.retriggerEach]
    exact ⟨congrArg₂ List.cons timer others, all⟩

/-- Characters keep their names. -/
theorem retriggered_rename (names : Renaming) (scene : Scene) :
    (scene.rename names).retriggered = scene.retriggered := by
  unfold Scene.retriggered Scene.withName Scene.rename
  dsimp only
  split
  · rw [List.filter_map, List.map_map]
    rfl
  · rfl

theorem remarkRetriggered (mirrors : first.Mirrors lag past second) (scene : Scene) :
    (scene.remarkRetriggered first).Mirrors lag past
      ((scene.rename lag.names).remarkRetriggered second) := by
  unfold Scene.remarkRetriggered
  rw [retriggered_rename, show (scene.rename lag.names).options = scene.options from rfl]
  split
  · dsimp only
    split
    · exact mirrors.remark _ _ _ _ _ _
    · exact mirrors
  · exact mirrors

theorem setRetriggers (mirrors : first.Mirrors lag past second) (scene : Scene) :
    ((scene.rename lag.names).setRetriggers second).1 =
        (scene.setRetriggers first).1.rename lag.names ∧
      (scene.setRetriggers first).2.Mirrors lag past
        ((scene.rename lag.names).setRetriggers second).2 := by
  obtain ⟨timers, all⟩ := (mirrors.remarkRetriggered scene).retriggerEach
    (Span.millis scene.options.retriggerMillis) scene.retriggered
  unfold Scene.setRetriggers
  rw [retriggered_rename]
  refine ⟨?_, all⟩
  have whole := congrArg (fun timers => { scene.rename lag.names with
    retriggers := scene.retriggers.map lag.names.timer ++ timers }) timers
  refine whole.trans ?_
  dsimp only
  rw [← List.map_append]
  rfl

/-! ### The entry -/

/-- **A scene is entered alike** in worlds that mirror each other, if none of its characters is on the
stage. -/
theorem enter (mirrors : first.Mirrors lag past second) {scene : Scene}
    (new : scene.state = .uninitialized)
    (absent : ∀ character ∈ scene.characters, character.sprite = none) :
    ((scene.rename lag.names).enter second).1 = (scene.enter first).1.rename lag.names ∧
      (scene.enter first).2.Mirrors lag past ((scene.rename lag.names).enter second).2 := by
  have told : (scene.remarkEntry first).Mirrors lag past
      ((scene.rename lag.names).remarkEntry second) := mirrors.remark _ _ _ _ _ _
  obtain ⟨sounding, started⟩ := told.enterSounds scene
  -- each part is entered with the scene that the part before has left, under its name in both worlds
  obtain ⟨painted, drawn⟩ := started.drawBackground _
  rw [← sounding] at painted drawn
  have cast := (scene.enterSounds (scene.remarkEntry first)).1.characters_drawBackground
    (scene.enterSounds (scene.remarkEntry first)).2
  obtain ⟨dressed, appeared⟩ := drawn.enterCharacters (cast ▸ absent)
  rw [← painted] at dressed appeared
  obtain ⟨timed, set⟩ := appeared.setRetriggers _
  rw [← dressed] at timed set
  rw [Scene.enter_eq new, Scene.enter_eq (show (scene.rename lag.names).state = _ from new)]
  refine ⟨congrArg (fun scene => { scene with state := .active }) timed, ?_⟩
  unfold Scene.activate
  dsimp only
  rw [timed]
  exact set.report (.sceneEntered _)

end World.Mirrors

end Storybook
