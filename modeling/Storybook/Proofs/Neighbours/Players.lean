/-
**Characters keep to themselves.**

Whatever has been done with a player before, and in the middle of a frame too: when a character is touched,
or appears again, every other character stays as it is, and so do their sprites, the motions of these and
the timers that they wait for.

* `Character.KeepsToItself`: what is not of a character stays as it was;
* `Scene.Kept.keepsToItself`: a character that turns into another state and spares the others;
* `Player.Reaches`: the states that a player comes to, between operations and in the middle of frames;
* `Player.Found`, `Player.Reaches.found`: in all of them it waits for its first scene, or it plays one;
* `Player.touch_keeps_to_itself`, `Player.retrigger_keeps_to_itself`: the two that may be asked of a
  character;
* `Player.characters_keep_to_themselves`: in every state that a player comes to.
-/

import Storybook.Proofs.Holding.Players
import Storybook.Proofs.Neighbours.Characters

namespace Storybook

/-! ### What is a character's own -/

namespace Character

/-- A sprite that is neither the one that a character had nor the one that it has. -/
def IsOther (before after : Character) (sprite : SpriteId) : Prop :=
  before.sprite ≠ some sprite ∧ after.sprite ≠ some sprite

instance (before after : Character) : DecidablePred (before.IsOther after) :=
  fun sprite => inferInstanceAs (Decidable (before.sprite ≠ some sprite ∧ _))

/-- Whether a timer is to start a motion for one of the effects of a character. -/
def awaits (character : Character) (timer : Timer Task) : Bool :=
  match timer.task with
  | .startMotion tick motion => ⟨tick, motion, some timer.id⟩ ∈ holdingsOf character.bindings.effects
  | _ => false

/-- **A character keeps to itself** between two worlds: all sprites but its own are as they were, and are
drawn in the same order, the motions of other sprites are registered as they were, and all timers but those
that its effects wait for are the same. -/
structure KeepsToItself (before after : Character) (first last : World) : Prop where
  sprites : ∀ id, before.IsOther after id → last.stage.find? id = first.stage.find? id
  drawn : last.stage.order.filter (before.IsOther after ·) =
    first.stage.order.filter (before.IsOther after ·)
  motions : last.animator.entries.filter (before.IsOther after ·.2.sprite) =
    first.animator.entries.filter (before.IsOther after ·.2.sprite)
  timers : last.timers.timers.filter (fun timer => !after.awaits timer) =
    first.timers.timers.filter fun timer => !before.awaits timer

variable {lost : Losses} {loose : List Loose} {owners : List SpriteId} {world : World}

/-- A gravity waits for no timer. -/
theorem mem_holdings_iff {character : Character} {tick : TickId} {motion : Motion} {timer : TimerId} :
    ⟨tick, motion, some timer⟩ ∈ character.holdings ↔
      ⟨tick, motion, some timer⟩ ∈ holdingsOf character.bindings.effects := by
  unfold holdings
  refine List.mem_append.trans (or_iff_left fun falls => ?_)
  unfold gravityHolding? at falls
  split at falls
  · cases List.mem_singleton.mp falls
  · cases falls

/-- **Among the timers of a world that is kept, those that start motions of its sprite are those that a
character waits for.** -/
theorem isForeign_eq {character : Character} {others : List Character} {own : List SpriteId}
    (kept : World.Kept lost loose (character.holdings ++ heldBy others) owners world)
    (coherent : character.Coherent) (calm : ∀ other ∈ others, other.Coherent)
    (mine : ∀ sprite ∈ character.sprite, sprite ∈ own) (apart : ∀ sprite ∈ own, sprite ∉ spritesOf others)
    {timer : Timer Task} (queued : timer ∈ world.timers.timers) :
    timer.task.isForeign own = !character.awaits timer := by
  unfold awaits Task.isForeign
  cases task : timer.task with
  | playSound link => rfl
  | retrigger id => rfl
  | startMotion tick motion =>
    have starts := (kept.held.starts timer queued tick motion task).2
    rcases List.mem_append.mp starts with own | other
    · have stands := mine _ (coherent.sprite own)
      simp [stands, mem_holdings_iff.mp own]
    · obtain ⟨neighbour, member, holds⟩ := List.mem_flatMap.mp other
      have theirs : motion.sprite ∈ spritesOf others := List.mem_flatMap.mpr
        ⟨neighbour, member, Option.mem_toList.mpr ((calm neighbour member).sprite holds)⟩
      have foreign : motion.sprite ∉ own := fun inside => apart _ inside theirs
      have free : ⟨tick, motion, some timer.id⟩ ∉ holdingsOf character.bindings.effects := by
        rw [← mem_holdings_iff]
        exact fun inside => foreign (mine _ (coherent.sprite inside))
      simp [foreign, free]

end Character

/-! ### One character of a scene -/

namespace Scene

variable {lost : Losses} {loose : List Loose} {scene : Scene} {world last : World}
  {id : CharacterId} {character after : Character}

/-- **A character of a scene keeps to itself**, if it spares the sprites of others. -/
theorem Kept.keepsToItself (kept : scene.Kept lost loose world)
    (found : scene.character? id = some character) (turns : character.Turns world after last)
    (spares : World.Spares (character.sprite.toList ++ after.sprite.toList) world last) :
    character.KeepsToItself after world last := by
  let others := scene.characters.eraseIdx id.index
  have coherent := kept.coherent character (mem_of_character? found)
  have calm : ∀ other ∈ others, other.Coherent :=
    fun other member => kept.coherent other (List.mem_of_mem_eraseIdx member)
  have before := kept.single found
  have later := turns.kept coherent before
  have member (sprite : SpriteId) : sprite ∈ character.sprite.toList ++ after.sprite.toList ↔
      ¬ character.IsOther after sprite := by
    simp [Character.IsOther, or_iff_not_imp_left]
  -- Neither of the two sprites is one of the other characters, before or after.
  have apart : ∀ sprite ∈ character.sprite.toList ++ after.sprite.toList, sprite ∉ spritesOf others := by
    intro sprite inside theirs
    have other := List.mem_append_right scene.background.toList theirs
    rcases List.mem_append.mp inside with old | new
    · exact (List.nodup_append.mp before.apart).2.2 sprite old sprite other rfl
    · exact (List.nodup_append.mp later.apart).2.2 sprite new sprite other rfl
  have old : ∀ timer ∈ world.timers.timers, _ = _ := fun timer queued =>
    Character.isForeign_eq before coherent calm
      (fun sprite stands => List.mem_append_left _ (Option.mem_toList.mpr stands)) apart queued
  have new : ∀ timer ∈ last.timers.timers, _ = _ := fun timer queued =>
    Character.isForeign_eq later (turns.coherent coherent) calm
      (fun sprite stands => List.mem_append_right _ (Option.mem_toList.mpr stands)) apart queued
  have same : ∀ sprite, decide (sprite ∉ character.sprite.toList ++ after.sprite.toList) =
      decide (character.IsOther after sprite) := fun sprite => by simp [member]
  constructor
  case sprites => exact fun sprite other => spares.sprites sprite fun mine => (member sprite).mp mine other
  case drawn =>
    have drawn := spares.drawn
    simp only [same] at drawn
    exact drawn
  case motions =>
    have motions := spares.motions
    simp only [same] at motions
    exact motions
  case timers =>
    have timers := spares.timers
    rw [List.filter_congr old, List.filter_congr new] at timers
    exact timers

theorem Kept.touch_keepsToItself (kept : scene.Kept lost loose world)
    (found : scene.character? id = some character) :
    character.KeepsToItself (character.touch world).2.1 world (character.touch world).2.2 := by
  have coherent := kept.coherent character (mem_of_character? found)
  refine kept.keepsToItself found (character.runs_touch world).turns ?_
  exact Character.spares_touch coherent
    (fun sprite stands => List.mem_append_left _ (Option.mem_toList.mpr stands)) (kept.single found).held

theorem Kept.appear_keepsToItself (kept : scene.Kept lost loose world)
    (found : scene.character? id = some character) :
    character.KeepsToItself (character.appear scene.binder world).1 world
      (character.appear scene.binder world).2 := by
  have coherent := kept.coherent character (mem_of_character? found)
  refine kept.keepsToItself found (Character.turns_appear coherent scene.binder world) ?_
  exact Character.spares_appear coherent scene.binder
    (fun sprite stands => List.mem_append_left _ (Option.mem_toList.mpr stands))
    (fun sprite stands => List.mem_append_right _ (Option.mem_toList.mpr stands)) (kept.single found).held

theorem character?_setCharacter_self (found : scene.character? id = some character) :
    (scene.setCharacter id after).character? id = some after :=
  List.getElem?_set_self (List.getElem?_eq_some_iff.mp found).1

end Scene

/-! ### Players -/

namespace Player

variable {player next : Player} {scene : Scene} {id : CharacterId} {character : Character}

/-- Between two states of a player only one character of its scene has become another, and that one keeps
to itself. -/
def KeepsTo (player : Player) (scene : Scene) (id : CharacterId) (character : Character)
    (next : Player) : Prop :=
  ∃ later after, next.scene = some later ∧ later.character? id = some after ∧
    (∀ other, other ≠ id → later.character? other = scene.character? other) ∧
      character.KeepsToItself after player.world next.world

/-- **The states that a player comes to**: after some operations, and in the middle of a frame that follows
them, when some of the tasks that are due are done. -/
inductive Reaches (player : Player) : Player → Prop
  | between (operations : List Operation) : player.Reaches (player.run operations)
  | within (operations : List Operation) (span : Nat) (done rest : List Task)
      (split : (player.run operations).due span = done ++ rest) :
      player.Reaches ((player.run operations).during span done)

/-- A character is put into the scene as it has become. -/
theorem keepsTo_set {after : Character} {last : World} (found : scene.character? id = some character)
    (later : next.scene = some (scene.setCharacter id after)) (ends : next.world = last)
    (keeps : character.KeepsToItself after player.world last) :
    player.KeepsTo scene id character next :=
  ⟨_, after, later, Scene.character?_setCharacter_self found,
    fun _ other => Scene.character?_setCharacter (Ne.symm other), ends ▸ keeps⟩

/-- **A character that is touched keeps to itself.** -/
theorem touch_keeps_to_itself {lost : Losses} {loose : List Loose}
    (kept : scene.Kept lost loose player.world) (active : scene.state = .active)
    (current : player.scene = some scene) (found : scene.character? id = some character) :
    player.KeepsTo scene id character (player.touch id).2 := by
  have keeps := kept.touch_keepsToItself found
  unfold touch askScene Scene.touch
  rw [current]
  dsimp only
  rw [if_pos active, found]
  exact keepsTo_set found rfl rfl keeps

/-- A character of the scene in play appears again. -/
theorem dispatch_retrigger (current : player.scene = some scene) (active : scene.state = .active)
    (found : scene.character? id = some character) :
    player.dispatch (.retrigger id) = { player with
      world := (character.appear scene.binder player.world).2
      scene := some (scene.setCharacter id (character.appear scene.binder player.world).1) } := by
  unfold dispatch withScene Scene.retrigger
  dsimp only
  rw [current]
  dsimp only
  rw [if_pos active, found]

/-- **A character that appears again keeps to itself.** -/
theorem retrigger_keeps_to_itself {lost : Losses} {loose : List Loose}
    (kept : scene.Kept lost loose player.world) (active : scene.state = .active)
    (current : player.scene = some scene) (found : scene.character? id = some character) :
    player.KeepsTo scene id character (player.dispatch (.retrigger id)) := by
  rw [dispatch_retrigger current active found]
  exact keepsTo_set found rfl rfl (kept.appear_keepsToItself found)

/-- **How a player is found**: it waits for its first scene, or it plays one, between two frames or in the
middle of one. -/
inductive Found (lost : Losses) : Player → Prop
  | waiting {player : Player} (waits : player.Waits lost) : Found lost player
  | between {player : Player} (scene : Scene) (shows : player.Shows scene) (active : scene.state = .active)
      (kept : scene.Kept lost [] player.world) : Found lost player
  | within {player : Player} (scene : Scene) (shows : player.Shows scene) (active : scene.state = .active)
      (kept : scene.Kept lost [] player.world) (span : Nat) {done : List Task}
      (fits : ∀ task ∈ done, scene.Fits task) : Found lost (player.during span done)

/-- **So is a player in every state that it comes to.** -/
theorem Reaches.found {document : Story.Document} {resources : Asset.Resources} {audio : Audio}
    {viewport : Viewport} {options : SceneOptions}
    (reaches : (ofResources document resources audio viewport options).Reaches player) :
    ∃ lost, Found lost player := by
  cases reaches with
  | between operations =>
    have kept := kept_run_any operations
      (kept_ofResources document resources audio viewport options)
    cases kept with
    | waiting waits => exact ⟨_, .waiting waits⟩
    | playing scene shows active kept => exact ⟨_, .between scene shows active kept⟩
  | within operations span done rest split =>
    have kept := kept_run_any operations
      (kept_ofResources document resources audio viewport options)
    cases kept with
    | waiting waits =>
      -- Nothing is due, so that no scene can have begun.
      rw [due_of_waits waits] at split
      rw [(List.append_eq_nil_iff.mp split.symm).1]
      exact ⟨_, .waiting (waits.advance span)⟩
    | playing scene shows active kept =>
      exact ⟨_, .within scene shows active kept span fun task member =>
        kept.fits (split ▸ List.mem_append_left rest member)⟩

/-- Whatever state a player comes to, the scene that it plays keeps the world. -/
theorem Reaches.kept {document : Story.Document} {resources : Asset.Resources} {audio : Audio}
    {viewport : Viewport} {options : SceneOptions}
    (reaches : (ofResources document resources audio viewport options).Reaches player)
    (current : player.scene = some scene) :
    scene.state = .active ∧ ∃ lost loose, scene.Kept lost loose player.world := by
  obtain ⟨lost, found⟩ := reaches.found
  cases found with
  | waiting waits => cases waits.scene.symm.trans current
  | between other shows active kept =>
    cases shows.current.symm.trans current
    exact ⟨active, _, _, kept⟩
  | within other shows active kept span fits =>
    obtain ⟨loose, later, shows, midway⟩ := midway_during shows active kept span fits
    cases shows.current.symm.trans current
    exact ⟨midway.active, _, loose, midway.kept⟩

/-- **Characters keep to themselves.** In every state that a player comes to, whatever has been done with
it, a character that is touched and one that is to appear again leave all others as they are. -/
theorem characters_keep_to_themselves (document : Story.Document) (resources : Asset.Resources)
    (audio : Audio) (viewport : Viewport) (options : SceneOptions)
    (reaches : (ofResources document resources audio viewport options).Reaches player)
    (current : player.scene = some scene) (found : scene.character? id = some character) :
    player.KeepsTo scene id character (player.touch id).2 ∧
      player.KeepsTo scene id character (player.dispatch (.retrigger id)) := by
  obtain ⟨active, lost, loose, kept⟩ := reaches.kept current
  exact ⟨touch_keeps_to_itself kept active current found,
    retrigger_keeps_to_itself kept active current found⟩

/-- A story with a cat and a dog: the dog moves half a second after it has appeared. -/
def yardStory : Story.Document where
  style := .standard
  splash := ⟨"s.png", "s.mp3"⟩
  start := "yard"
  scenes :=
    [("yard", ⟨"bg.png", [], [⟨"Cat", "cat.png", ⟨10, 20⟩, none, [("touch", [.spin 1])]⟩,
      ⟨"Dog", "dog.png", ⟨90, 20⟩, none, [("onload", [.spin 2, .move 1 .right (some 500)])]⟩]⟩)]

/-- A player of that story, where the cat appears again each second. -/
def yard : Player :=
  ofResources yardStory ⟨[("cat.png", .texture ⟨64, 64⟩), ("dog.png", .texture ⟨96, 64⟩)]⟩
    (.silent 3000000000 []) ⟨800, 600⟩ ⟨some "Cat", 1000, 100⟩

/-- The yard in the middle of a frame, when the dog has begun to move and the cat is to appear again. -/
def stirringYard : Player :=
  (yard.run [.enterScene "yard"]).during 1000000000 [.startMotion ⟨2⟩ (.drift ⟨2⟩ 1)]

/-- The cat appears again, and leaves the dog as it is, which spins and moves. -/
theorem cat_keeps_to_itself : ∃ scene cat, yard.Reaches stirringYard ∧
    stirringYard.scene = some scene ∧ scene.character? ⟨0⟩ = some cat ∧
      stirringYard.KeepsTo scene ⟨0⟩ cat (stirringYard.dispatch (.retrigger ⟨0⟩)) ∧
        stirringYard.world.animator.entries = [(⟨1⟩, .spin ⟨2⟩ 2), (⟨2⟩, .drift ⟨2⟩ 1)] := by
  have split : (yard.run [.enterScene "yard"]).due 1000000000 =
      [.startMotion ⟨2⟩ (.drift ⟨2⟩ 1)] ++ [.retrigger ⟨0⟩] := by decide +kernel
  have reaches : yard.Reaches stirringYard := .within _ _ _ _ split
  have current : stirringYard.scene = some (stirringYard.scene.get (by decide +kernel)) :=
    (Option.some_get _).symm
  have found : (stirringYard.scene.get (by decide +kernel)).character? ⟨0⟩ =
      some (((stirringYard.scene.get (by decide +kernel)).character? ⟨0⟩).get (by decide +kernel)) :=
    (Option.some_get _).symm
  exact ⟨_, _, reaches, current, found,
    (characters_keep_to_themselves _ _ _ _ _ reaches current found).2, by decide +kernel⟩

end Player

end Storybook
