/-
**A character that appears again has forgotten the past.**

Whatever has become of a character, when it is to appear again, nothing is left of its old sprite: neither the
sprite itself, nor a motion of it, nor a timer that is to start one. What it wears and what it is about to do
then is what any character of its story would at its first appearance, with the same assets, up to the names of
the handles and the time.

* `Character.Forgotten`: nothing is left of what a character had put into the world;
* `Player.Stands`: a scene in play, between frames or in the middle of one;
* `Player.Reaches.proper`: in the states that a player comes to, nothing is of a sprite that is still to come;
* `Player.appears_as_at_first`: both, in every state that a player comes to.
-/

import Storybook.Proofs.Layers
import Storybook.Proofs.Renewal.Clean
import Storybook.Proofs.Renewal.Outfits

namespace Storybook

variable {lost : Losses} {loose : List Loose} {owners : List SpriteId} {world : World}
  {characters : List Character}

/-! ### Proper worlds -/

/-- **In a world that is kept, nothing is of a sprite that is still to come**, if what strays is of sprites
that are gone. -/
theorem World.Kept.proper (kept : World.Kept lost loose (heldBy characters) owners world)
    (coherent : ∀ character ∈ characters, character.Coherent)
    (owned : ∀ sprite ∈ spritesOf characters, sprite ∈ owners)
    (strays : ∀ handle ∈ loose, ∀ motion, handle.motion = some motion → world.stage.Gone motion.sprite)
    (ordered : Timer.Ordered world.timers.timers) : world.Proper := by
  have held {holding : Holding} (holds : holding ∈ heldBy characters) :
      holding.motion.sprite.number ≤ world.stage.issued := by
    obtain ⟨character, member, inside⟩ := List.mem_flatMap.mp holds
    refine kept.given _ (owned _ (List.mem_flatMap.mpr ⟨character, member, ?_⟩))
    exact Option.mem_toList.mpr ((coherent character member).sprite inside)
  refine ⟨kept.stage.issued, fun id drawn => kept.stage.issued id (kept.stage.drawn id drawn), ?_, ?_,
    ordered⟩
  · intro entry member
    rcases kept.held.motions entry member with stray | ⟨holding, holds, _, moves⟩
    · exact (strays _ stray entry.2 rfl).given
    · have given := held holds
      rwa [moves, Motion.sprite_atRest] at given
  · intro timer queued tick motion task
    exact held (kept.held.starts timer queued tick motion task).2

/-! ### What is forgotten -/

namespace Character

/-- **Nothing is left of what a character had put into the world**: neither its sprite, nor a motion or the
start of one that is of that sprite or under a handle that the character had. -/
structure Forgotten (before : Character) (world : World) : Prop where
  sprite : ∀ sprite ∈ before.sprite, world.stage.isLive sprite = false ∧ sprite ∉ world.stage.order
  motions : ∀ entry ∈ world.animator.entries,
    before.sprite ≠ some entry.2.sprite ∧ entry.1 ∉ before.ticks
  starts : ∀ timer ∈ world.timers.timers, ∀ tick motion, timer.task = .startMotion tick motion →
    before.sprite ≠ some motion.sprite ∧ tick ∉ before.ticks

variable {character : Character} {others : List Character}

/-- **What a character had is forgotten when it appears again**, whatever has become of it. -/
theorem forgotten_appear (coherent : character.Coherent) (calm : ∀ other ∈ others, other.Coherent)
    (kept : World.Kept lost loose (character.holdings ++ heldBy others)
      (character.sprite.toList ++ owners) world)
    (owned : ∀ sprite ∈ spritesOf others, sprite ∈ owners)
    (strays : ∀ handle ∈ loose, ∀ motion, handle.motion = some motion →
      character.sprite ≠ some motion.sprite) (binder : Binder) :
    character.Forgotten (character.appear binder world).2 := by
  have appears := turns_appear coherent binder world
  have after := kept_reappear coherent binder kept
  have own {tick : TickId} (mine : tick ∈ character.ticks) :
      (⟨tick, none⟩ : Loose) ∈ character.ticks.map (⟨·, none⟩) ++ loose :=
    List.mem_append_left _ (List.mem_map_of_mem mine)
  -- What is held now is held by its new effects or by others, under other handles and of other sprites.
  have other : ∀ holding ∈ (character.appear binder world).1.holdings ++ heldBy others,
      character.sprite ≠ some holding.motion.sprite ∧ holding.tick ∉ character.ticks := by
    intro holding holds
    refine ⟨fun same => ?_, fun mine => after.held.apart _ (own mine) holding holds rfl⟩
    have stands : holding.motion.sprite ∈ character.sprite.toList := Option.mem_toList.mpr same
    rcases List.mem_append.mp holds with new | foreign
    · have next := sprite_appear character binder world _ ((appears.coherent coherent).sprite new)
      have given := kept.given _ (List.mem_append_left _ stands)
      rw [next] at given
      exact Nat.not_succ_le_self _ given
    · obtain ⟨neighbour, member, inside⟩ := List.mem_flatMap.mp foreign
      have theirs : holding.motion.sprite ∈ spritesOf others := List.mem_flatMap.mpr
        ⟨neighbour, member, Option.mem_toList.mpr ((calm neighbour member).sprite inside)⟩
      exact (List.nodup_append.mp kept.apart).2.2 _ stands _ (owned _ theirs) rfl
  constructor
  case sprite =>
    intro sprite stands
    have given := kept.given sprite (List.mem_append_left _ (Option.mem_toList.mpr stands))
    have gone := (gone_appear coherent binder stands given).absent
    refine ⟨Bool.eq_false_iff.mpr fun live => gone (Stage.isLive_iff.mp live), fun drawn => ?_⟩
    exact gone (after.stage.drawn sprite drawn)
  case motions =>
    intro entry member
    rcases after.held.motions entry member with stray | ⟨holding, holds, handle, moves⟩
    · have old : ⟨entry.1, some entry.2⟩ ∈ loose := (List.mem_append.mp stray).resolve_left fun new => by
        obtain ⟨_, _, same⟩ := List.mem_map.mp new
        cases same
      refine ⟨strays _ old entry.2 rfl, fun mine => ?_⟩
      obtain ⟨holding, holds, same⟩ := List.mem_map.mp mine
      exact kept.held.apart _ old holding (List.mem_append_left _ holds) same
    · have apart := other holding holds
      rwa [moves, handle, Motion.sprite_atRest] at apart
  case starts =>
    intro timer queued tick motion task
    exact other _ (after.held.starts timer queued tick motion task).2

end Character

namespace Player

variable {player : Player} {scene first : Scene} {done : List Task}

/-! ### Since a frame began -/

/-- **Since a frame began**, when the stage had given out so many sprites, all characters that have appeared
again have newer ones. -/
structure Renewed (given : Nat) (done : List Task) (player : Player) : Prop where
  issued : given ≤ player.world.stage.issued
  newer : ∀ scene id character sprite, player.scene = some scene → .retrigger id ∈ done →
    scene.character? id = some character → character.sprite = some sprite → given < sprite.number

/-- A task that lets no character appear again does not matter. -/
theorem Renewed.concat {given : Nat} {next : Player} (renewed : player.Renewed given done) {task : Task}
    (other : ∀ id, task ≠ .retrigger id) (stage : next.world.stage = player.world.stage)
    (scenes : ∀ later, next.scene = some later →
      ∃ scene, player.scene = some scene ∧ later.characters = scene.characters) :
    next.Renewed given (done ++ [task]) where
  issued := stage ▸ renewed.issued
  newer later id character sprite current again found stands := by
    obtain ⟨scene, before, same⟩ := scenes later current
    have earlier : .retrigger id ∈ done := (List.mem_append.mp again).resolve_right fun last =>
      other id (List.mem_singleton.mp last).symm
    refine renewed.newer scene id character sprite before earlier ?_ stands
    unfold Scene.character? at found ⊢
    rw [← same]
    exact found

/-- **A character that appears again has a newer sprite.** -/
theorem Renewed.retrigger {given : Nat} (renewed : player.Renewed given done)
    (current : player.scene = some scene) (active : scene.state = .active) (id : CharacterId) :
    (player.dispatch (.retrigger id)).Renewed given (done ++ [.retrigger id]) := by
  unfold dispatch withScene
  dsimp only
  rw [current]
  constructor
  case issued => exact Nat.le_trans renewed.issued (scene.piles_retrigger player.world id).issued
  case newer =>
    rintro later other after sprite ⟨⟩ again found stands
    unfold Scene.retrigger at found
    rw [if_pos active] at found
    by_cases same : other = id
    · subst same
      cases before : scene.character? other with
      | none =>
        rw [before] at found
        cases before.symm.trans found
      | some character =>
        rw [before] at found
        cases (Scene.character?_setCharacter_self before).symm.trans found
        rw [character.sprite_appear _ _ sprite stands]
        exact Nat.lt_succ_of_le renewed.issued
    · have earlier : .retrigger other ∈ done := (List.mem_append.mp again).resolve_right fun last =>
        same (Task.retrigger.inj (List.mem_singleton.mp last))
      refine renewed.newer scene other after sprite current earlier ?_ stands
      split at found
      · exact (Scene.character?_setCharacter (Ne.symm same)).symm.trans found
      · exact found

theorem Renewed.dispatch {given : Nat} (renewed : player.Renewed given done)
    (midway : player.Midway lost first done) (task : Task) :
    (player.dispatch task).Renewed given (done ++ [task]) := by
  obtain ⟨_, scene, shows, midway⟩ := midway
  cases task with
  | playSound link =>
    refine renewed.concat (fun _ => Task.noConfusion) ?_ ?_
    · unfold Player.dispatch withScene
      dsimp only
      rw [shows.current]
      exact scene.stage_playSound player.world link
    · unfold Player.dispatch withScene
      dsimp only
      rw [shows.current]
      rintro _ ⟨⟩
      refine ⟨scene, rfl, ?_⟩
      unfold Scene.playSound
      split <;> rfl
  | startMotion tick motion =>
    exact renewed.concat (fun _ => Task.noConfusion) rfl fun later current => ⟨later, current, rfl⟩
  | retrigger id => exact renewed.retrigger shows.current midway.active id

theorem Renewed.dispatchEach {given : Nat} (tasks : List Task) (renewed : player.Renewed given done)
    (midway : player.Midway lost first done) (settled : first.Settled)
    (fits : ∀ task ∈ tasks, first.Fits task) :
    (tasks.foldl Player.dispatch player).Renewed given (done ++ tasks) := by
  induction tasks generalizing done player with
  | nil =>
    rw [List.append_nil]
    exact renewed
  | cons task rest ih =>
    obtain ⟨head, tail⟩ := List.forall_mem_cons.mp fits
    rw [List.append_cons]
    exact ih (renewed.dispatch midway task) (midway.dispatch settled head) tail

/-- **In the middle of a frame** all characters that have appeared again have newer sprites. -/
theorem renewed_during (shows : player.Shows scene) (active : scene.state = .active)
    (kept : scene.Kept lost [] player.world) (span : Nat) (fits : ∀ task ∈ done, scene.Fits task) :
    (player.during span done).Renewed player.world.stage.issued done := by
  have begins : Renewed player.world.stage.issued [] (player.during span []) :=
    ⟨Nat.le_refl _, fun _ _ _ _ _ none => nomatch none⟩
  exact begins.dispatchEach done (midway_during shows active kept span nofun) kept.settled fits

/-! ### Scenes in play -/

/-- **How a scene stands** in play: it keeps the world, and what strays is of sprites that are gone and that
no character has. -/
structure Stands (player : Player) (scene : Scene) (lost : Losses) (loose : List Loose) : Prop where
  active : scene.state = .active
  kept : scene.Kept lost loose player.world
  gone : ∀ handle ∈ loose, ∀ motion, handle.motion = some motion → player.world.stage.Gone motion.sprite
  strays : ∀ handle ∈ loose, ∀ motion, handle.motion = some motion →
    motion.sprite ∉ spritesOf scene.characters
  ordered : Timer.Ordered player.world.timers.timers

/-- What was overtaken in a frame is of no character: its own has a newer sprite. -/
theorem Renewed.strays {given : Nat} (renewed : player.Renewed given done)
    (current : player.scene = some scene) (midway : first.Midway lost done loose scene player.world)
    (settled : first.Settled) (old : ∀ sprite ∈ spritesOf first.characters, sprite.number ≤ given) :
    ∀ handle ∈ loose, ∀ motion, handle.motion = some motion →
      motion.sprite ∉ spritesOf scene.characters := by
  intro handle stray motion moves inside
  obtain ⟨before, after, rfl, character, member, stands, again⟩ :=
    (midway.overtaken handle.tick motion).mp (moves ▸ stray)
  obtain ⟨other, there, has⟩ := List.mem_flatMap.mp inside
  have has : other.sprite = some motion.sprite := Option.mem_toList.mp has
  have found := midway.kept.numbered.found there
  have mine : motion.sprite ∈ spritesOf first.characters :=
    List.mem_flatMap.mpr ⟨character, member, Option.mem_toList.mpr stands⟩
  by_cases retriggered : .retrigger other.id ∈ before ++ .startMotion handle.tick motion :: after
  · exact Nat.not_lt.mpr (old _ mine) (renewed.newer scene _ other _ current retriggered found has)
  · have same := Scene.mem_of_character? ((midway.same other.id retriggered).symm.trans found)
    rw [← Scene.Settled.eq_of_nodup_spritesOf settled.sprites character member other same _ stands has]
      at retriggered
    exact retriggered (List.mem_append_left _ again)

theorem Reaches.ordered {document : Story.Document} {resources : Asset.Resources} {audio : Audio}
    {viewport : Viewport} {options : SceneOptions}
    (reaches : (ofResources document resources audio viewport options).Reaches player) :
    Timer.Ordered player.world.timers.timers := by
  cases reaches with
  | between operations => exact ordered_run document resources audio viewport options operations
  | within operations span done rest split =>
    let before := (ofResources document resources audio viewport options).run operations
    let begun := { before with world := (before.world.advanceClock span).2 }
    have halts : begun.world.timers.Halts (before.during span done).world.timers :=
      List.foldlRecOn (motive := fun middle : Player => begun.world.timers.Halts middle.world.timers) done
        dispatch (.refl _) fun middle halts task _ => halts.trans (middle.halts_dispatch task)
    exact halts.ordered (TimerQueue.ordered_advance
      (ordered_run document resources audio viewport options operations) span)

/-- **In every state that a player comes to**, the scene in play stands. -/
theorem Reaches.stands {document : Story.Document} {resources : Asset.Resources} {audio : Audio}
    {viewport : Viewport} {options : SceneOptions}
    (reaches : (ofResources document resources audio viewport options).Reaches player)
    (current : player.scene = some scene) : ∃ lost loose, player.Stands scene lost loose := by
  have ordered := reaches.ordered
  obtain ⟨lost, found⟩ := reaches.found
  cases found with
  | waiting waits => cases waits.scene.symm.trans current
  | between other shows active kept =>
    cases shows.current.symm.trans current
    exact ⟨_, [], active, kept, nofun, nofun, ordered⟩
  | within other shows active kept span fits =>
    have renewed := renewed_during shows active kept span fits
    obtain ⟨loose, later, shows, midway⟩ := midway_during shows active kept span fits
    cases shows.current.symm.trans current
    refine ⟨_, loose, midway.active, midway.kept, midway.gone, ?_, ordered⟩
    refine renewed.strays shows.current midway kept.settled fun sprite mine => ?_
    exact kept.kept.given sprite (List.mem_append_right _ mine)

/-- The worlds of scenes that stand are proper. -/
theorem Stands.proper (stands : player.Stands scene lost loose) : player.world.Proper :=
  stands.kept.kept.proper stands.kept.coherent (fun _ mine => List.mem_append_right _ mine) stands.gone
    stands.ordered

theorem Waits.proper (waits : player.Waits lost) : player.world.Proper := by
  have ordered : Timer.Ordered player.world.timers.timers := by
    rw [waits.idle]
    exact .nil
  have kept : World.Kept lost [] (heldBy []) player.splashSprite.toList player.world := waits.kept
  exact kept.proper nofun nofun nofun ordered

/-- **Every world that a player comes to is proper.** -/
theorem Reaches.proper {document : Story.Document} {resources : Asset.Resources} {audio : Audio}
    {viewport : Viewport} {options : SceneOptions}
    (reaches : (ofResources document resources audio viewport options).Reaches player) :
    player.world.Proper := by
  cases current : player.scene with
  | some scene =>
    obtain ⟨lost, loose, stands⟩ := reaches.stands current
    exact stands.proper
  | none =>
    obtain ⟨lost, found⟩ := reaches.found
    cases found with
    | waiting waits => exact waits.proper
    | between scene shows => cases shows.current.symm.trans current
    | within scene shows active kept span fits =>
      obtain ⟨_, later, shows, _⟩ := midway_during shows active kept span fits
      cases shows.current.symm.trans current

theorem Reaches.resources {document : Story.Document} {resources : Asset.Resources} {audio : Audio}
    {viewport : Viewport} {options : SceneOptions}
    (reaches : (ofResources document resources audio viewport options).Reaches player) :
    player.world.resources = resources := by
  cases reaches with
  | between operations => exact (same_run operations _).resources
  | within operations span done rest split =>
    exact (stays_during _ span done).same.resources.trans (same_run operations _).resources

/-! ### Again -/

/-- The world that a character has left is proper. -/
theorem Stands.proper_withdraw (stands : player.Stands scene lost loose) {id : CharacterId}
    {character : Character} (found : scene.character? id = some character) :
    (character.withdraw player.world).2.Proper := by
  have coherent := stands.kept.coherent character (Scene.mem_of_character? found)
  have withdraws := character.turns_withdraw player.world
  have left := withdraws.kept coherent (stands.kept.single found)
  have offstage := character.sprite_withdraw player.world
  rw [(withdraws.coherent coherent).holdings offstage, offstage, List.nil_append, Option.toList_none,
    List.nil_append] at left
  refine left.proper ?_ ?_ ?_ ((character.halts_withdraw player.world).ordered stands.ordered)
  · exact fun other member => stands.kept.coherent other (List.mem_of_mem_eraseIdx member)
  · exact fun sprite theirs => List.mem_append_right _ theirs
  · exact fun handle stray motion moves => (stands.gone handle stray motion moves).follow withdraws.acts.stage

theorem Stands.forgotten (stands : player.Stands scene lost loose) {id : CharacterId}
    {character : Character} (found : scene.character? id = some character) :
    character.Forgotten (character.appear scene.binder player.world).2 := by
  have member := Scene.mem_of_character? found
  refine Character.forgotten_appear (stands.kept.coherent character member) ?_ (stands.kept.single found)
    ?_ ?_ scene.binder
  · exact fun other member => stands.kept.coherent other (List.mem_of_mem_eraseIdx member)
  · exact fun sprite theirs => List.mem_append_right _ theirs
  · intro handle stray motion moves same
    refine stands.strays handle stray motion moves (List.mem_flatMap.mpr ⟨character, member, ?_⟩)
    exact Option.mem_toList.mpr same

/-- **A character that appears again is as at first**, and has forgotten the past. In every state that a
player comes to, whatever has been done with it, nothing is left of what a character had when it has appeared
again; and its outfit then, which is all that is seen of it and all that it is about to do, is that of any
first appearance in any world with the same assets, up to the names of the handles. That world may be any in
which nothing is of a sprite that is still to come, as in all worlds that players come to. -/
theorem appears_as_at_first (document : Story.Document) (resources : Asset.Resources) (audio : Audio)
    (viewport : Viewport) (options : SceneOptions)
    (reaches : (ofResources document resources audio viewport options).Reaches player)
    (current : player.scene = some scene) {id : CharacterId} {character : Character}
    (found : scene.character? id = some character) :
    let next := player.dispatch (.retrigger id)
    player.world.Proper ∧ ∃ later again, next.scene = some later ∧ later.character? id = some again ∧
      character.Forgotten next.world ∧
      ∀ first : World, first.Proper → first.resources = resources →
        let shown := (Character.ofSpec id character.spec).appear scene.binder first
        (again.outfit next.world).Alike (shown.1.outfit shown.2) := by
  obtain ⟨lost, loose, stands⟩ := reaches.stands current
  have same : character.id = id := stands.kept.numbered id.index character found
  have clean := reaches.clean scene current character (Scene.mem_of_character? found)
  have left := stands.proper_withdraw found
  have assets : (character.withdraw player.world).2.resources = resources :=
    (character.turns_withdraw player.world).acts.resources.trans reaches.resources
  have again := clean.appear_eq scene.binder player.world
  intro next
  have ends : next = _ := dispatch_retrigger current stands.active found
  rw [ends]
  refine ⟨stands.proper, _, _, rfl, Scene.character?_setCharacter_self found, stands.forgotten found, ?_⟩
  intro first proper loaded
  dsimp only
  rw [again, same, Character.outfit_appear left, Character.outfit_appear proper, assets, loaded]
  exact Outfit.alike_of_names _ _ _

/-- A story with a frog that falls, moves one and a half seconds after it has appeared, and spins and fades
when it is touched. -/
def pondStory : Story.Document where
  style := .standard
  splash := ⟨"s.png", "s.mp3"⟩
  start := "pond"
  scenes :=
    [("pond", ⟨"bg.png", [], [⟨"Frog", "frog.png", ⟨10, 20⟩, some ⟨none, 5, false⟩,
      [("onload", [.move 1 .right (some 1500)]), ("touch", [.spin 1, .fadeOut 2])]⟩]⟩)]

/-- A player of that story. -/
def pond : Player :=
  ofResources pondStory ⟨[("frog.png", .texture ⟨64, 64⟩)]⟩ (.silent 3000000000 []) ⟨800, 600⟩
    ⟨none, 1000, 100⟩

/-- The frog is touched, and its sprite is taken away from outside. -/
def pondVisit : List Operation :=
  [.enterScene "pond", .touch ⟨0⟩, .destroy ⟨1⟩]

/-- What is left of the frog then is forgotten when it appears again, as it does in the empty pond. -/
theorem frog_appears_as_at_first : ∃ scene frog later again,
    (pond.run pondVisit).scene = some scene ∧ scene.character? ⟨0⟩ = some frog ∧
      (pond.run pondVisit).world.animator.entries.map (·.2.sprite) = [⟨1⟩, ⟨1⟩, ⟨1⟩] ∧
      ((pond.run pondVisit).dispatch (.retrigger ⟨0⟩)).scene = some later ∧
      later.character? ⟨0⟩ = some again ∧
      frog.Forgotten ((pond.run pondVisit).dispatch (.retrigger ⟨0⟩)).world ∧
      let shown := (Character.ofSpec ⟨0⟩ frog.spec).appear scene.binder pond.world
      (again.outfit ((pond.run pondVisit).dispatch (.retrigger ⟨0⟩)).world).Alike
        (shown.1.outfit shown.2) := by
  have reaches : pond.Reaches (pond.run pondVisit) := .between _
  have first : pond.Reaches pond := .between []
  have current : (pond.run pondVisit).scene = some ((pond.run pondVisit).scene.get (by decide +kernel)) :=
    (Option.some_get _).symm
  have found : ((pond.run pondVisit).scene.get (by decide +kernel)).character? ⟨0⟩ =
      some ((((pond.run pondVisit).scene.get (by decide +kernel)).character? ⟨0⟩).get
        (by decide +kernel)) := (Option.some_get _).symm
  obtain ⟨_, later, again, next, there, forgotten, alike⟩ :=
    appears_as_at_first _ _ _ _ _ reaches current found
  exact ⟨_, _, later, again, current, found, by decide +kernel, next, there, forgotten,
    alike pond.world first.proper first.resources⟩

end Player

end Storybook
