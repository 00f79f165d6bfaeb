/-
**A scene is entered as if nothing had been before.**

To enter a scene fails, and changes nothing, exactly if the story does not have it. Otherwise what the
player shows then, what it is about to do and what it has reported since the old scene was torn down
depend on the story, its assets and its options alone, up to the names of the handles: nothing of
earlier scenes, of touches or of characters that appeared again is left. Nor is anything of the splash,
unless a start that has failed was made again.

* `Scene.tableau`: the tableau of a scene that is entered in a blank world;
* `Player.tableau_enterSpec`: the tableau of every player that has entered the scene is that one,
  renamed;
* `Player.entry_alike`: so those of any two players are alike;
* `Player.entry_remembers`: but for the pictures that starts in vain have left behind.
-/

import Storybook.Proofs.Mirroring.Scenes
import Storybook.Proofs.Restarting

namespace Storybook

/-! ### A blank world -/

/-- A world where nothing has happened. -/
def World.blank (resources : Asset.Resources) : World :=
  .initial ⟨0, 0⟩ resources (.silent 0 [])

/-- By how much a world is ahead of a blank one. -/
def World.lag (world : World) : Lag :=
  ⟨world.stage.issued, world.animator.issued, world.timers.issued, world.audio.issued,
    world.timers.now⟩

/-- **A bare world mirrors a blank one.** -/
theorem World.mirrors_blank {world : World} (bare : world.IsBare) :
    (blank world.resources).Mirrors world.lag world.events.toList world where
  resources := rfl
  spritesIssued := (Nat.zero_add _).symm
  sprites := bare.sprites
  order := bare.order
  ticksIssued := (Nat.zero_add _).symm
  motions := bare.motions
  timersIssued := (Nat.zero_add _).symm
  now := (Nat.zero_add _).symm
  timers := bare.timers
  playbacksIssued := (Nat.zero_add _).symm
  events := (List.append_nil _).symm

namespace Scene

/-- The tableau of a scene that is entered in a blank world. -/
def tableau (scene : Scene) (resources : Asset.Resources) : Tableau :=
  let (scene, world) := scene.enter (.blank resources)
  { sprites := world.stage.sprites
    drawn := world.stage.drawn
    motions := world.animator.entries
    waits := world.timers.waits
    phase := .playing
    splashSprite := none
    splashPlayback := none
    scene := some scene
    events := world.events.toList }

/-- The characters of a scene that was not entered are not on the stage. -/
theorem absent_ofSpec (id : String) (spec : Story.Scene) (style : Story.Style)
    (options : SceneOptions) :
    ∀ character ∈ (ofSpec id spec style options).characters, character.sprite = none := by
  intro character member
  obtain ⟨_, _, rfl⟩ := List.mem_map.mp member
  rfl

/-- A scene that was not entered names no handles. -/
theorem rename_ofSpec (names : Renaming) (id : String) (spec : Story.Scene) (style : Story.Style)
    (options : SceneOptions) :
    (ofSpec id spec style options).rename names = ofSpec id spec style options := by
  have cast : (cast spec).map (Character.rename names) = cast spec := by
    unfold Scene.cast
    rw [List.map_map]
    rfl
  exact congrArg (fun characters => { ofSpec id spec style options with characters }) cast

end Scene

/-! ### Entries -/

namespace Player

/-- **Every player that has entered a scene has the same tableau**, up to the names of the handles:
that of the scene in a blank world. -/
theorem tableau_enterSpec {player : Player} (bare : player.leaveScene.clearSplash.world.IsBare)
    (id : String) (spec : Story.Scene) :
    (player.enterSpec id spec).tableauSince player.leaveScene.clearSplash =
      ((Scene.ofSpec id spec player.document.style player.options).tableau
        player.world.resources).rename player.leaveScene.clearSplash.world.lag.names := by
  have same := player.same_clear
  have mirrors := World.mirrors_blank bare
  rw [same.resources] at mirrors
  have new : (Scene.ofSpec id spec player.document.style player.options).state = .uninitialized := rfl
  obtain ⟨scene, entered⟩ := mirrors.enter new (Scene.absent_ofSpec id spec _ _)
  rw [Scene.rename_ofSpec] at scene entered
  have events : player.leaveScene.clearSplash.world.events.size =
      player.leaveScene.clearSplash.world.events.toList.length := Array.length_toList.symm
  unfold enterSpec tableauSince Scene.tableau Tableau.rename
  dsimp only
  rw [same.document, same.options, events, entered.sprites, entered.drawn, entered.motions,
    entered.waits, entered.events, List.drop_left, scene]
  rfl

/-- To clear the splash is not reported. -/
theorem events_clearSplash (player : Player) :
    player.clearSplash.world.events = player.world.events := by
  unfold clearSplash
  cases player.splashSprite <;> cases player.splashPlayback <;> rfl

/-- After a scene was entered, the tableau is that of the scene in a blank world, renamed. -/
theorem tableau_enterScene {player : Player} {id : String}
    (bare : player.leaveScene.clearSplash.world.IsBare) (success : (player.enterScene id).1 = .ok ()) :
    ∃ spec lag, player.document.scene? id = some spec ∧
      (player.enterScene id).2.tableauSince player.leaveScene =
        ((Scene.ofSpec id spec player.document.style player.options).tableau
          player.world.resources).rename (Lag.names lag) := by
  cases found : player.document.scene? id with
  | none =>
    rw [enterScene_eq_error found] at success
    cases success
  | some spec =>
    refine ⟨spec, player.leaveScene.clearSplash.world.lag, rfl, ?_⟩
    rw [enterScene_eq_ok found, ← tableau_enterSpec bare id spec]
    unfold tableauSince
    rw [events_clearSplash]

/-- **The entry of a scene forgets what was before.** It fails exactly if the story does not have the
scene, and then nothing changes. Where two players of a story enter a scene, whatever was done with
them before, their tableaux are alike, with the events since the old scene was torn down, unless one of
them was started again after a start that has failed. -/
theorem entry_alike (document : Story.Document) (resources : Asset.Resources)
    (options : SceneOptions) (audio audio' : Audio) (viewport viewport' : Viewport)
    (operations operations' : List Operation) (id : String) :
    let loaded := ofResources document resources audio viewport options
    let loaded' := ofResources document resources audio' viewport' options
    let first := loaded.run operations
    let second := loaded'.run operations'
    ((∃ fault, (first.enterScene id).1 = .error fault) ↔ id ∉ document.scenes.map Prod.fst) ∧
      (∀ fault, (first.enterScene id).1 = .error fault → (first.enterScene id).2 = first) ∧
      (loaded.NeverRestarts operations → loaded'.NeverRestarts operations' →
        (first.enterScene id).1 = .ok () → (second.enterScene id).1 = .ok () →
          ((first.enterScene id).2.tableauSince first.leaveScene).Alike
            ((second.enterScene id).2.tableauSince second.leaveScene)) := by
  intro loaded loaded' first second
  have same : loaded.Same first := same_run _ _
  have same' : loaded'.Same second := same_run _ _
  refine ⟨?_, fun fault failed => enterScene_failed failed, fun never never' success success' => ?_⟩
  · have fails := first.enterScene_fails_iff id
    rw [same.document] at fails
    exact fails
  · have kept := kept_run_neverRestarts never (kept_ofResources document resources audio viewport options)
    have kept' :=
      kept_run_neverRestarts never' (kept_ofResources document resources audio' viewport' options)
    obtain ⟨spec, lag, found, tableau⟩ := tableau_enterScene (isBare_shutdown kept) success
    obtain ⟨spec', lag', found', tableau'⟩ := tableau_enterScene (isBare_shutdown kept') success'
    rw [same.document] at found
    rw [same'.document] at found'
    cases found.symm.trans found'
    -- both are renamings of the tableau of the scene in a blank world
    rw [tableau, tableau', same.document, same.options, same.resources, same'.document,
      same'.options, same'.resources]
    exact Tableau.alike_of_names _ lag lag'

/-- A story of two rooms. In the hall it rains, a cat falls, and it moves off after a while. -/
def houseStory : Story.Document where
  style := .standard
  splash := ⟨"house.png", "house.mp3"⟩
  start := "hall"
  scenes :=
    [("attic", ⟨"attic.png", [], []⟩),
     ("hall", ⟨"hall.png", [⟨none, "rain.mp3", 1, some 200, none⟩],
      [⟨"Cat", "cat.png", ⟨10, 20⟩, some ⟨none, 1, false⟩,
        [("onload", [.move 1 .right (some 1500)]), ("touch", [.audio "rain.mp3", .spin 2])]⟩]⟩)]

/-- Its pictures and sounds. -/
def houseAssets : Asset.Resources :=
  ⟨[("cat.png", .texture ⟨64, 64⟩), ("house.png", .texture ⟨640, 480⟩),
    ("house.mp3", .sound ⟨none⟩), ("rain.mp3", .sound ⟨none⟩)]⟩

/-- One frame after the splash is shown, the hall is entered, the cat appears again and is touched, the
attic is entered, and then the hall again. -/
def houseVisit : List Operation :=
  [.start, .frame 3000000000, .enterScene "hall", .frame 1600000000, .touch ⟨0⟩, .enterScene "attic"]

/-- After that visit the hall is entered as it is at first, but for the names of the handles, and a
cellar, which the house does not have, is not entered. -/
theorem alike_hall :
    let options : SceneOptions := ⟨some "Cat", 1000, 100⟩
    let fresh := (ofResources houseStory houseAssets (.silent 3000000000 []) ⟨800, 600⟩ options).run []
    let visited := (ofResources houseStory houseAssets (.silent 1000000000 []) ⟨320, 200⟩
      options).run houseVisit
    let entered := (fresh.enterScene "hall").2.tableauSince fresh.leaveScene
    let entered' := (visited.enterScene "hall").2.tableauSince visited.leaveScene
    ((fresh.enterScene "hall").1 = .ok () ∧ (visited.enterScene "hall").1 = .ok () ∧
      entered ≠ entered' ∧ entered.Alike entered') ∧
    ∃ fault, (visited.enterScene "cellar").1 = .error fault ∧ (visited.enterScene "cellar").2 = visited := by
  intro options fresh visited entered entered'
  have starts : (houseStory.scene? houseStory.start).isSome = true := by decide
  have never := neverRestarts_of_starts starts houseAssets
  have alike := (entry_alike houseStory houseAssets options (.silent 3000000000 [])
    (.silent 1000000000 []) ⟨800, 600⟩ ⟨320, 200⟩ [] houseVisit "hall").2.2
    (never _ _ _ _) (never _ _ _ _)
  have success : (fresh.enterScene "hall").1 = .ok () := rfl
  have success' : (visited.enterScene "hall").1 = .ok () := by
    decide +kernel
  obtain ⟨fails, stays, _⟩ := entry_alike houseStory houseAssets options (.silent 1000000000 [])
    (.silent 1000000000 []) ⟨320, 200⟩ ⟨320, 200⟩ houseVisit [] "cellar"
  obtain ⟨fault, failed⟩ := fails.mpr (by decide)
  exact ⟨⟨success, success', by decide +kernel, alike success success'⟩, fault, failed, stays fault failed⟩

/-- The house without its sound, where the cellar is to come first, which it does not have. -/
def cellarStory : Story.Document :=
  { houseStory with start := "cellar" }

/-- Its pictures. -/
def cellarAssets : Asset.Resources :=
  ⟨[("cat.png", .texture ⟨64, 64⟩), ("house.png", .texture ⟨640, 480⟩)]⟩

/-- **The hall shows a picture of the house after two starts in vain**: it is not entered as it is at
first. -/
theorem entry_remembers :
    let loaded := ofResources cellarStory cellarAssets (.silent 1000000000 []) ⟨800, 600⟩ .standard
    let first := loaded.run []
    let second := loaded.run [.start, .start]
    (first.enterScene "hall").1 = .ok () ∧ (second.enterScene "hall").1 = .ok () ∧
      ¬ ((first.enterScene "hall").2.tableauSince first.leaveScene).Alike
        ((second.enterScene "hall").2.tableauSince second.leaveScene) := by
  refine ⟨by decide +kernel, by decide +kernel, fun alike => ?_⟩
  exact absurd alike.sprites_length (by decide +kernel)

end Player

end Storybook
