/-
**Scenes hold what their characters hold.**

The places of a scene are those of its characters, and its sprites are those of its characters and
its background. All timers are for the sounds of the scene, for its characters to appear again, or for
the start of a motion that a character holds.

* `Scene.Kept`: the world of a scene in play is kept by the places of the scene;
* `Scene.Kept.turn`, `Scene.Kept.sound`: what a character, and what the sounds, do to it;
* `Scene.kept_enter`: it holds from the entering of the scene on;
* `Scene.kept_teardown`: after the scene is torn down there is nothing left to be kept.
-/

import Storybook.Proofs.Holding.Characters
import Storybook.Proofs.Holding.Sounds

namespace Storybook

variable {lost : Losses} {loose : List Loose} {others : List Holding} {owners : List SpriteId}

/-- A timer that lets a character appear again. -/
def Timer.Recalls (timer : Timer Task) : Prop :=
  ∃ character, timer.task = .retrigger character

theorem Timer.PlaysSound.not_starts {timer : Timer Task} (plays : timer.PlaysSound) :
    ¬ timer.Starts := by
  obtain ⟨link, task⟩ := plays
  rintro ⟨tick, motion, other⟩
  cases task.symm.trans other

theorem Timer.Recalls.not_starts {timer : Timer Task} (recalls : timer.Recalls) :
    ¬ timer.Starts := by
  obtain ⟨character, task⟩ := recalls
  rintro ⟨tick, motion, other⟩
  cases task.symm.trans other

/-- What the sounds do leaves a world kept. -/
theorem World.Kept.sound {world after : World} (kept : World.Kept lost loose others owners world)
    (sounds : world.Sounds after) : World.Kept lost loose others owners after := by
  refine kept.work (sounds.stage ▸ .refl _) ?_
  rw [sounds.animator]
  refine kept.held.retime sounds.grows fun timer member => ?_
  exact (sounds.timers timer member).imp_right Timer.PlaysSound.not_starts

/-! ### Characters one after the other -/

/-- The sprites of characters. -/
def spritesOf (characters : List Character) : List SpriteId :=
  characters.flatMap fun character => character.sprite.toList

theorem perm_spritesOf {characters rest : List Character} (same : characters.Perm rest) :
    (spritesOf characters).Perm (spritesOf rest) :=
  same.flatMap_right _

theorem perm_heldBy {characters rest : List Character} (same : characters.Perm rest) :
    (heldBy characters).Perm (heldBy rest) :=
  same.flatMap_right _

namespace Scene

theorem acts_appearEach (binder : Binder) (characters : List Character)
    (coherent : ∀ character ∈ characters, character.Coherent) :
    ∀ world : World, world.Acts (appearEach binder characters world).2 := by
  induction characters with
  | nil => exact .refl
  | cons first rest ih =>
    intro world
    obtain ⟨head, tail⟩ := List.forall_mem_cons.mp coherent
    have appears := Character.turns_appear head binder world
    exact appears.acts.trans (ih tail _)

theorem parts_appearEach (binder : Binder) (characters : List Character)
    (coherent : ∀ character ∈ characters, character.Coherent) :
    ∀ world : World,
      (appearEach binder characters world).1.map Character.part = characters.map Character.part := by
  induction characters with
  | nil => exact fun _ => rfl
  | cons first rest ih =>
    intro world
    obtain ⟨head, tail⟩ := List.forall_mem_cons.mp coherent
    have appears := Character.turns_appear head binder world
    exact congrArg₂ List.cons appears.remains.part (ih tail _)

theorem coherent_appearEach (binder : Binder) (characters : List Character)
    (coherent : ∀ character ∈ characters, character.Coherent) :
    ∀ world : World, ∀ character ∈ (appearEach binder characters world).1, character.Coherent := by
  induction characters with
  | nil => exact fun _ _ member => nomatch member
  | cons first rest ih =>
    intro world character member
    obtain ⟨head, tail⟩ := List.forall_mem_cons.mp coherent
    have appears := Character.turns_appear head binder world
    rcases List.mem_cons.mp member with rfl | member
    · exact appears.coherent head
    · exact ih tail _ character member

/-- Characters that appear one after the other keep the world: while one does, the places of all
others stay as they are. -/
theorem kept_appearEach (binder : Binder) (characters : List Character)
    (coherent : ∀ character ∈ characters, character.Coherent) :
    ∀ {others : List Holding} {owners : List SpriteId} {world : World},
      World.Kept lost loose (heldBy characters ++ others) (spritesOf characters ++ owners) world →
        World.Kept lost loose (heldBy (appearEach binder characters world).1 ++ others)
          (spritesOf (appearEach binder characters world).1 ++ owners)
          (appearEach binder characters world).2 := by
  induction characters with
  | nil => exact fun kept => kept
  | cons first rest ih =>
    intro others owners world kept
    obtain ⟨head, tail⟩ := List.forall_mem_cons.mp coherent
    have appears := Character.turns_appear head binder world
    unfold heldBy spritesOf at kept
    rw [List.flatMap_cons, List.flatMap_cons, List.append_assoc, List.append_assoc] at kept
    have shown := appears.kept head kept
    have later := ih tail
      (shown.perm (List.perm_append_comm_assoc _ _ _) (List.perm_append_comm_assoc _ _ _))
    unfold appearEach heldBy spritesOf
    rw [List.flatMap_cons, List.flatMap_cons, List.append_assoc, List.append_assoc]
    exact later.perm (List.perm_append_comm_assoc _ _ _) (List.perm_append_comm_assoc _ _ _)

theorem acts_disappearEach (characters : List Character) :
    ∀ world : World, world.Acts (disappearEach characters world).2 := by
  induction characters with
  | nil => exact .refl
  | cons first rest ih => exact fun world => (first.acts_disappear world).trans (ih _)

/-- Characters that disappear one after the other leave nothing. -/
theorem kept_disappearEach (characters : List Character)
    (coherent : ∀ character ∈ characters, character.Coherent) :
    ∀ {world : World},
      World.Kept lost loose (heldBy characters ++ others) (spritesOf characters ++ owners) world →
        World.Kept lost loose others owners (disappearEach characters world).2 := by
  induction characters with
  | nil => exact fun kept => kept
  | cons first rest ih =>
    intro world kept
    obtain ⟨head, tail⟩ := List.forall_mem_cons.mp coherent
    unfold heldBy spritesOf at kept
    rw [List.flatMap_cons, List.flatMap_cons, List.append_assoc, List.append_assoc] at kept
    exact ih tail
      (Character.kept_disappear head kept)

/-! ### The places of a scene -/

/-- The sprites of a scene: those of its background and its characters. -/
def sprites (scene : Scene) : List SpriteId :=
  scene.background.toList ++ spritesOf scene.characters

/-- The characters are numbered in order. -/
def Numbered (scene : Scene) : Prop :=
  ∀ (index : Nat) (character : Character), scene.characters[index]? = some character → character.id = ⟨index⟩

/-- A character of the scene has the name of those that are to appear again. -/
def IsRecalled (scene : Scene) (id : CharacterId) : Prop :=
  ∃ character ∈ scene.characters, character.id = id ∧
    scene.options.retriggerCharacter = some character.name

/-- Every timer that lets a character appear again is one that the scene has set for it. -/
def Recalls (scene : Scene) (timers : List (Timer Task)) : Prop :=
  ∀ timer ∈ timers, ∀ id, timer.task = .retrigger id →
    timer.period ≠ none ∧ timer.id ∈ scene.retriggers ∧ scene.IsRecalled id

/-- The world of a scene in play is kept by the places of the scene, and all other timers are set by
the scene. -/
structure Kept (lost : Losses) (loose : List Loose) (scene : Scene) (world : World) : Prop where
  kept : World.Kept lost loose scene.holdings scene.sprites world
  numbered : scene.Numbered
  coherent : ∀ character ∈ scene.characters, character.Coherent
  plans : scene.sounds.Plans world.timers.timers
  recalls : scene.Recalls world.timers.timers

variable {scene : Scene} {world : World}

theorem mem_of_character? {id : CharacterId} {character : Character}
    (found : scene.character? id = some character) : character ∈ scene.characters :=
  List.mem_of_getElem? found

theorem Numbered.found (numbered : scene.Numbered) {character : Character}
    (member : character ∈ scene.characters) : scene.character? character.id = some character := by
  obtain ⟨index, found⟩ := List.mem_iff_getElem?.mp member
  unfold character?
  rw [numbered index character found]
  exact found

theorem Numbered.id (numbered : scene.Numbered) {id : CharacterId} {character : Character}
    (found : scene.character? id = some character) : character.id = id :=
  numbered id.index character found

/-! ### While the scene is in play -/

/-- The characters of a scene with the one of a number in front. -/
theorem perm_of_character? {id : CharacterId} {character : Character}
    (found : scene.character? id = some character) :
    scene.characters.Perm (character :: scene.characters.eraseIdx id.index) := by
  obtain ⟨inside, rfl⟩ := List.getElem?_eq_some_iff.mp found
  exact (List.getElem_cons_eraseIdx_perm inside).symm

theorem perm_setCharacter {id : CharacterId} {character after : Character}
    (found : scene.character? id = some character) :
    (scene.setCharacter id after).characters.Perm
      (after :: scene.characters.eraseIdx id.index) :=
  List.set_perm_cons_eraseIdx (List.getElem?_eq_some_iff.mp found).1 after

theorem character?_setCharacter {id other : CharacterId} {after : Character} (different : id ≠ other) :
    (scene.setCharacter id after).character? other = scene.character? other := by
  refine List.getElem?_set_ne fun same => different ?_
  cases id
  cases other
  exact congrArg CharacterId.mk same

theorem Numbered.setCharacter (numbered : scene.Numbered) {id : CharacterId}
    {character after : Character} (found : scene.character? id = some character)
    (remains : character.Remains after) : (scene.setCharacter id after).Numbered := by
  intro index other there
  by_cases same : id.index = index
  · subst same
    have inside : id.index < scene.characters.length := (List.getElem?_eq_some_iff.mp found).1
    cases (List.getElem?_set_self inside).symm.trans there
    rw [remains.id, numbered.id found]
  · exact numbered index other ((List.getElem?_set_ne same).symm.trans there)

/-- The characters that are to appear again keep their names and numbers. -/
theorem IsRecalled.setCharacter {id other : CharacterId} {character after : Character}
    (recalled : scene.IsRecalled other) (found : scene.character? id = some character)
    (remains : character.Remains after) : (scene.setCharacter id after).IsRecalled other := by
  obtain ⟨named, member, same, set⟩ := recalled
  rcases List.mem_cons.mp ((perm_of_character? found).mem_iff.mp member) with rfl | outside
  · refine ⟨after, (perm_setCharacter found).mem_iff.mpr List.mem_cons_self, ?_, ?_⟩
    · exact remains.id.trans same
    · unfold Character.name
      rw [remains.spec]
      exact set
  · exact ⟨named, (perm_setCharacter found).mem_iff.mpr (List.mem_cons_of_mem _ outside), same, set⟩

theorem state_touch (scene : Scene) (id : CharacterId) (world : World) :
    (scene.touch id world).2.1.state = scene.state := by
  unfold touch
  split
  · split <;> rfl
  · rfl

theorem state_pointerUpAt (scene : Scene) (x y : Single) (world : World) :
    (scene.pointerUpAt x y world).2.1.state = scene.state := by
  unfold pointerUpAt pointerUp
  split
  · split
    · exact scene.state_touch _ world
    · rfl
  · rfl

namespace Kept

/-- The place of one character, beside those of all others. -/
theorem single (kept : scene.Kept lost loose world) {id : CharacterId}
    {character : Character} (found : scene.character? id = some character) :
    World.Kept lost loose
      (character.holdings ++ heldBy (scene.characters.eraseIdx id.index))
      (character.sprite.toList
        ++ (scene.background.toList ++ spritesOf (scene.characters.eraseIdx id.index))) world := by
  refine kept.kept.perm (perm_heldBy (perm_of_character? found)) ?_
  refine (List.Perm.append_left _ (perm_spritesOf (perm_of_character? found))).trans ?_
  exact List.perm_append_comm_assoc _ _ _

/-- A character may be replaced by what has become of it. -/
theorem replace {freed : List Loose} (kept : scene.Kept lost loose world)
    {id : CharacterId} {character after : Character} {last : World}
    (found : scene.character? id = some character) (turns : character.Turns world after last)
    (placed : World.Kept lost freed
      (after.holdings ++ heldBy (scene.characters.eraseIdx id.index))
      (after.sprite.toList
        ++ (scene.background.toList ++ spritesOf (scene.characters.eraseIdx id.index))) last) :
    (scene.setCharacter id after).Kept lost freed last := by
  refine ⟨placed.perm (perm_heldBy (perm_setCharacter found)).symm ?_,
    kept.numbered.setCharacter found turns.remains, ?_, ?_, ?_⟩
  · refine (List.perm_append_comm_assoc _ _ _).trans (List.Perm.append_left _ ?_)
    exact (perm_spritesOf (perm_setCharacter found)).symm
  · intro other member
    rcases List.mem_cons.mp ((perm_setCharacter found).mem_iff.mp member) with rfl | outside
    · exact turns.coherent (kept.coherent character (mem_of_character? found))
    · exact kept.coherent other (List.mem_of_mem_eraseIdx outside)
  · intro timer member link task
    rcases turns.acts.timers timer member with old | ⟨tick, motion, other⟩
    · exact kept.plans timer old link task
    · cases task.symm.trans other
  · intro timer member recalled task
    rcases turns.acts.timers timer member with old | ⟨tick, motion, other⟩
    · obtain ⟨again, set, named⟩ := kept.recalls timer old recalled task
      exact ⟨again, set, named.setCharacter found turns.remains⟩
    · cases task.symm.trans other

/-- **What becomes of one character leaves a scene kept.** -/
theorem turn (kept : scene.Kept lost loose world) {id : CharacterId}
    {character after : Character} {last : World} (found : scene.character? id = some character)
    (turns : character.Turns world after last) :
    (scene.setCharacter id after).Kept lost loose last :=
  kept.replace found turns
    (turns.kept (kept.coherent character (mem_of_character? found)) (kept.single found))

/-- A character that appears again may leave its old handles as loose ones. -/
theorem reappear (kept : scene.Kept lost loose world) {id : CharacterId}
    {character : Character} (found : scene.character? id = some character) :
    (scene.setCharacter id (character.appear scene.binder world).1).Kept lost
      (character.ticks.map (⟨·, none⟩) ++ loose) (character.appear scene.binder world).2 := by
  have own := kept.coherent character (mem_of_character? found)
  exact kept.replace found (Character.turns_appear own scene.binder world)
    (Character.kept_reappear own scene.binder (kept.single found))

/-- **What the sounds do leaves a scene kept.** -/
theorem sound (kept : scene.Kept lost loose world) {chain : SoundChain} {last : World}
    (sounds : world.Sounds last) (plans : chain.Plans last.timers.timers) :
    { scene with sounds := chain }.Kept lost loose last := by
  refine ⟨kept.kept.sound sounds, kept.numbered, kept.coherent, plans, ?_⟩
  intro timer member id task
  rcases sounds.timers timer member with old | ⟨link, other⟩
  · exact kept.recalls timer old id task
  · cases task.symm.trans other

/-- Nothing but the stage, the motions and the timers matters, and of the stage only which sprites
there are. -/
theorem congr {last : World} (kept : scene.Kept lost loose world)
    (stage : world.stage.Keeps last.stage) (animator : last.animator = world.animator)
    (timers : last.timers = world.timers) : scene.Kept lost loose last :=
  { kept with
    kept := kept.kept.work stage (animator ▸ timers ▸ kept.kept.held)
    plans := timers ▸ kept.plans
    recalls := timers ▸ kept.recalls }

/-- **Time that passes for the timers leaves a scene kept.** -/
theorem advance (kept : scene.Kept lost loose world) (span : Nat) :
    scene.Kept lost loose (world.advanceClock span).2 := by
  have renewed : ∀ timer ∈ (world.advanceClock span).2.timers.timers,
      ∃ old ∈ world.timers.timers, timer.Renews old := fun _ => TimerQueue.mem_advance
  refine { kept with
    kept := kept.kept.work (.refl _) (kept.kept.held.renew rfl renewed)
    plans := fun timer member link task => ?_
    recalls := fun timer member id task => ?_ }
  · obtain ⟨old, there, renews⟩ := renewed timer member
    rw [renews.period, renews.id]
    exact kept.plans old there link (renews.task ▸ task)
  · obtain ⟨old, there, renews⟩ := renewed timer member
    rw [renews.period, renews.id]
    exact kept.recalls old there id (renews.task ▸ task)

/-- A frame of the motions leaves a scene kept, and nothing strays any more. -/
theorem tick (kept : scene.Kept lost loose world)
    (strays : ∀ handle ∈ loose, ∀ motion, handle.motion = some motion →
      motion.sprite ∉ world.stage.keys) (span : Nat) : scene.Kept lost [] (world.tick span) := by
  refine { kept with kept := kept.kept.tick strays span, plans := ?_, recalls := ?_ }
  · rw [world.timers_tick]
    exact kept.plans
  · rw [world.timers_tick]
    exact kept.recalls

theorem playSound (kept : scene.Kept lost loose world) (link : Nat) :
    (scene.playSound link world).1.Kept lost loose (scene.playSound link world).2 := by
  unfold Scene.playSound
  split
  · exact kept
  · exact kept.sound (scene.sounds.sounds_play link world)
      (SoundChain.plans_play kept.plans link)

theorem finish (kept : scene.Kept lost loose world) (playback : PlaybackId) :
    (scene.finish playback world).2.1.Kept lost loose
      (scene.finish playback world).2.2 :=
  kept.sound (scene.sounds.sounds_finish playback world)
    (SoundChain.plans_finish kept.plans playback)

theorem touch (kept : scene.Kept lost loose world) (id : CharacterId) :
    (scene.touch id world).2.1.Kept lost loose (scene.touch id world).2.2 := by
  unfold Scene.touch
  split
  · split
    · rename_i character found
      exact kept.turn found (character.runs_touch world).turns
    · exact kept
  · exact kept

theorem pointerUpAt (kept : scene.Kept lost loose world) (x y : Single) :
    (scene.pointerUpAt x y world).2.1.Kept lost loose (scene.pointerUpAt x y world).2.2 := by
  unfold Scene.pointerUpAt Scene.pointerUp
  split
  · split
    · exact kept.touch _
    · exact kept
  · exact kept

end Kept

/-! ### Entering -/

theorem coherent_cast (spec : Story.Scene) : ∀ character ∈ cast spec, character.Coherent := by
  intro character member
  obtain ⟨⟨actor, index⟩, _, rfl⟩ := List.mem_map.mp member
  exact Character.coherent_ofSpec _ _

theorem sprite_cast {spec : Story.Scene} {character : Character} (member : character ∈ cast spec) :
    character.sprite = none := by
  obtain ⟨⟨actor, index⟩, _, rfl⟩ := List.mem_map.mp member
  rfl

/-- Before a scene is entered there is nothing to be kept. -/
theorem kept_ofSpec (id : String) (spec : Story.Scene) (style : Story.Style)
    (options : SceneOptions) (kept : World.Kept lost loose [] [] world)
    (idle : world.timers.timers = []) :
    (ofSpec id spec style options).Kept lost loose world := by
  have holds : (ofSpec id spec style options).holdings = [] :=
    List.flatMap_eq_nil_iff.mpr fun character member =>
      (coherent_cast spec character member).holdings (sprite_cast member)
  have shows : (ofSpec id spec style options).sprites = [] := by
    refine List.flatMap_eq_nil_iff.mpr fun character member => ?_
    rw [sprite_cast member]
    rfl
  refine ⟨?_, ?_, coherent_cast spec, ?_, ?_⟩
  · rw [holds, shows]
    exact kept
  · intro index character there
    obtain ⟨⟨actor, number⟩, listed, rfl⟩ :=
      Option.map_eq_some_iff.mp (List.getElem?_map.symm.trans there)
    rw [List.getElem?_zipIdx] at listed
    obtain ⟨_, _, same⟩ := Option.map_eq_some_iff.mp listed
    cases same
    exact congrArg CharacterId.mk (Nat.zero_add index)
  · intro timer member
    rw [idle] at member
    cases member
  · intro timer member
    rw [idle] at member
    cases member

variable {scene : Scene} {world : World}

/-- The background owns a new sprite. -/
theorem Kept.draw (kept : scene.Kept lost loose world) (blank : scene.background = none) :
    (scene.drawBackground world).1.Kept lost loose (scene.drawBackground world).2 := by
  unfold drawBackground
  split
  · rename_i texture _
    have made := (kept.kept.create (Sprite.ofTexture scene.backgroundImage texture)).attach
      (world.createSprite (Sprite.ofTexture scene.backgroundImage texture)).1
    unfold sprites at made
    rw [blank] at made
    exact ⟨made, kept.numbered, kept.coherent, kept.plans, kept.recalls⟩
  · exact ⟨kept.kept.congr rfl rfl rfl, kept.numbered, kept.coherent, kept.plans, kept.recalls⟩

/-- All characters appear. -/
theorem Kept.appearEach (kept : scene.Kept lost loose world) :
    { scene with characters := (Scene.appearEach scene.binder scene.characters world).1 }.Kept lost loose
      (Scene.appearEach scene.binder scene.characters world).2 := by
  have acts := acts_appearEach scene.binder scene.characters kept.coherent world
  have parts := parts_appearEach scene.binder scene.characters kept.coherent world
  have before : World.Kept lost loose (heldBy scene.characters ++ [])
      (spritesOf scene.characters ++ scene.background.toList) world :=
    kept.kept.perm (.of_eq (List.append_nil _).symm) List.perm_append_comm
  have shown := kept_appearEach scene.binder scene.characters kept.coherent before
  rw [List.append_nil] at shown
  refine ⟨shown.perm (.refl _) List.perm_append_comm, fun index character there => ?_,
    coherent_appearEach scene.binder scene.characters kept.coherent world, ?_, ?_⟩
  · have listed := congrArg (fun parts => parts[index]?) parts
    simp only [List.getElem?_map] at listed
    rw [there] at listed
    obtain ⟨old, found, same⟩ := Option.map_eq_some_iff.mp listed.symm
    rw [← kept.numbered index old found]
    exact (congrArg Prod.fst same).symm
  · intro timer member link task
    rcases acts.timers timer member with old | ⟨tick, motion, other⟩
    · exact kept.plans timer old link task
    · cases task.symm.trans other
  · intro timer member id task
    rcases acts.timers timer member with old | ⟨tick, motion, other⟩
    · obtain ⟨again, set, named, inside, same, name⟩ := kept.recalls timer old id task
      have listed : named.part ∈ (Scene.appearEach scene.binder scene.characters world).1.map
          Character.part := parts ▸ List.mem_map_of_mem inside
      obtain ⟨after, there, remains⟩ := List.mem_map.mp listed
      refine ⟨again, set, after, there, (congrArg Prod.fst remains).trans same, ?_⟩
      rw [name]
      exact congrArg (fun part => some part.2.name) remains.symm
    · cases task.symm.trans other

/-- The setting of timers for characters to appear again. -/
theorem mem_retriggerEach {span : Nat} {timer : Timer Task} (ids : List CharacterId) :
    ∀ {world : World}, timer ∈ (retriggerEach span ids world).2.timers.timers →
      timer ∈ world.timers.timers ∨ (timer.period ≠ none ∧
        timer.id ∈ (retriggerEach span ids world).1 ∧ ∃ id ∈ ids, timer.task = .retrigger id) := by
  induction ids with
  | nil => exact fun member => Or.inl member
  | cons first rest ih =>
    intro world member
    rcases ih member with earlier | ⟨again, set, id, inside, task⟩
    · rcases TimerQueue.mem_repeatEvery.mp earlier with rfl | old
      · exact Or.inr ⟨nofun, List.mem_cons_self, first, List.mem_cons_self, rfl⟩
      · exact Or.inl old
    · exact Or.inr ⟨again, List.mem_cons_of_mem _ set, id, List.mem_cons_of_mem _ inside, task⟩

theorem retriggerEach_eq (span : Nat) (ids : List CharacterId) :
    ∀ world : World, (retriggerEach span ids world).2
      = { world with timers := (retriggerEach span ids world).2.timers } := by
  induction ids with
  | nil => exact fun _ => rfl
  | cons first rest ih => exact fun world => ih _

theorem grows_retriggerEach (span : Nat) (ids : List CharacterId) :
    ∀ world : World, world.timers.Grows (retriggerEach span ids world).2.timers := by
  induction ids with
  | nil => exact fun world => .refl world.timers
  | cons first rest ih =>
    intro world
    have first : world.timers.Grows (world.timers.repeatEvery span (.retrigger first)).2 :=
      world.timers.grows_insert _ _ _
    exact first.trans (ih { world with timers := (world.timers.repeatEvery span (.retrigger _)).2 })

theorem remarkRetriggered_eq (scene : Scene) (world : World) :
    ∃ remarks, scene.remarkRetriggered world = { world with remarks } := by
  unfold remarkRetriggered
  split
  · dsimp only
    split
    · exact ⟨_, rfl⟩
    · exact ⟨_, rfl⟩
  · exact ⟨_, rfl⟩

theorem grows_setRetriggers (scene : Scene) (world : World) :
    world.timers.Grows (scene.setRetriggers world).2.timers := by
  obtain ⟨remarks, same⟩ := scene.remarkRetriggered_eq world
  unfold setRetriggers
  rw [same]
  exact grows_retriggerEach (Span.millis scene.options.retriggerMillis) scene.retriggered
    { world with remarks }

theorem isRecalled_of_mem {id : CharacterId} (member : id ∈ scene.retriggered) :
    scene.IsRecalled id := by
  unfold retriggered at member
  split at member
  · rename_i name set
    obtain ⟨character, listed, same⟩ := List.mem_map.mp member
    obtain ⟨inside, named⟩ := List.mem_filter.mp listed
    exact ⟨character, inside, same, set.trans (congrArg some (of_decide_eq_true named).symm)⟩
  · cases member

/-- The timers for characters to appear again are set. -/
theorem Kept.recallEach (kept : scene.Kept lost loose world) :
    (scene.setRetriggers world).1.Kept lost loose (scene.setRetriggers world).2 := by
  obtain ⟨remarks, same⟩ := scene.remarkRetriggered_eq world
  have set : ∀ timer ∈ (scene.setRetriggers world).2.timers.timers,
      timer ∈ world.timers.timers ∨ (timer.period ≠ none ∧
        timer.id ∈ (scene.setRetriggers world).1.retriggers ∧
          ∃ id ∈ scene.retriggered, timer.task = .retrigger id) := by
    intro timer member
    rcases mem_retriggerEach _ member with old | ⟨again, set, recalled⟩
    · rw [same] at old
      exact Or.inl old
    · exact Or.inr ⟨again, List.mem_append_right _ set, recalled⟩
  have held : Held loose scene.holdings world.animator
      (scene.setRetriggers world).2.timers := by
    refine kept.kept.held.retime (scene.grows_setRetriggers world) fun timer member =>
      (set timer member).imp_right ?_
    rintro ⟨_, _, id, _, task⟩
    exact Timer.Recalls.not_starts ⟨id, task⟩
  refine ⟨?_, kept.numbered, kept.coherent, ?_, ?_⟩
  · unfold setRetriggers at held ⊢
    rw [retriggerEach_eq, same] at held ⊢
    exact kept.kept.work (.refl _) held
  · intro timer member link task
    rcases set timer member with old | ⟨_, _, id, _, other⟩
    · exact kept.plans timer old link task
    · cases task.symm.trans other
  · intro timer member id task
    rcases set timer member with old | ⟨again, set, other, inside, sets⟩
    · obtain ⟨again, set, recalled⟩ := kept.recalls timer old id task
      exact ⟨again, List.mem_append_left _ set, recalled⟩
    · cases task.symm.trans sets
      exact ⟨again, set, isRecalled_of_mem inside⟩

/-- **A scene that is entered is kept**, if nothing was to be kept before. -/
theorem kept_enter (id : String) (spec : Story.Scene) (style : Story.Style)
    (options : SceneOptions) {world : World} (kept : World.Kept lost loose [] [] world)
    (idle : world.timers.timers = []) :
    ((ofSpec id spec style options).enter world).1.Kept lost loose
      ((ofSpec id spec style options).enter world).2 := by
  let new := ofSpec id spec style options
  have opened : new.Kept lost loose (world.remark .info .scene
      s!"Entering scene '{new.id}' ({new.characters.length} characters)") :=
    kept_ofSpec id spec style options (kept.congr rfl rfl rfl) idle
  have sounding := opened.sound (new.sounds.sounds_start _) (SoundChain.plans_start opened.plans)
  have entered := (sounding.draw rfl).appearEach.recallEach
  have fresh : (ofSpec id spec style options).state = .uninitialized := rfl
  unfold enter
  rw [if_pos fresh]
  dsimp only
  refine ⟨?_, entered.numbered, entered.coherent, entered.plans, entered.recalls⟩
  exact entered.kept.report _

theorem acts_drawBackground (scene : Scene) (world : World) :
    world.Acts (scene.drawBackground world).2 := by
  unfold drawBackground
  split
  · exact (world.acts_createSprite _).trans (World.acts_attachSprite _ _)
  · exact world.acts_remark _ _ _

theorem characters_drawBackground (scene : Scene) (world : World) :
    (scene.drawBackground world).1.characters = scene.characters := by
  unfold drawBackground
  split <;> rfl

theorem quiet_setRetriggers (scene : Scene) (world : World) :
    world.Quiet (scene.setRetriggers world).2 := by
  obtain ⟨remarks, same⟩ := scene.remarkRetriggered_eq world
  refine .of_eq ?_
  unfold setRetriggers
  rw [retriggerEach_eq, same]

/-- Nothing ends while a scene is entered. -/
theorem quiet_enter (id : String) (spec : Story.Scene) (style : Story.Style)
    (options : SceneOptions) (world : World) :
    world.Quiet ((ofSpec id spec style options).enter world).2 := by
  let new := ofSpec id spec style options
  let started := new.sounds.start (world.remark .info .scene
    s!"Entering scene '{new.id}' ({new.characters.length} characters)")
  let drawn := { new with sounds := started.1 }.drawBackground started.2
  have cast : ∀ character ∈ drawn.1.characters, character.Coherent := by
    rw [characters_drawBackground]
    exact coherent_cast spec
  have sounding : world.Quiet started.2 := (new.sounds.sounds_start _).events.quiet
  have drawing : world.Quiet drawn.2 := sounding.trans (acts_drawBackground _ _).events.quiet
  have shown := drawing.trans (acts_appearEach drawn.1.binder drawn.1.characters cast _).events.quiet
  exact (shown.trans (quiet_setRetriggers _ _)).trans (World.quiet_report _ not_false)

theorem state_enter (id : String) (spec : Story.Scene) (style : Story.Style)
    (options : SceneOptions) (world : World) :
    ((ofSpec id spec style options).enter world).1.state = .active :=
  rfl

/-! ### Tearing down -/

/-- A timer that is left when those for sounds and for characters are gone is to start a motion. -/
theorem starts_of_left {scene : Scene} {timers : List (Timer Task)} {timer : Timer Task}
    (plans : scene.sounds.Plans timers) (recalls : scene.Recalls timers) (member : timer ∈ timers)
    (quiet : timer.id ∉ scene.sounds.pending) (set : timer.id ∉ scene.retriggers) :
    timer.Starts := by
  cases task : timer.task with
  | playSound link => exact absurd (plans timer member link task).2.2 quiet
  | startMotion tick motion => exact ⟨tick, motion, task⟩
  | retrigger id => exact absurd (recalls timer member id task).2.1 set

/-- **A scene that is torn down leaves nothing to be kept**: no sprite has an owner, no motion is held,
and the timers that are left are not those of the scene. -/
theorem kept_teardown {scene : Scene} {world : World} (kept : scene.Kept lost loose world)
    (stands : scene.state ≠ .tornDown) :
    World.Kept lost loose [] [] (scene.teardown world).2 ∧
      ∀ timer ∈ (scene.teardown world).2.timers.timers, timer.Starts := by
  let cancelled := scene.retriggers.foldl World.cancelTimer world
  let stopped := (scene.sounds.stop cancelled).2
  let left := (disappearEach scene.characters stopped).2
  have waits : ∀ timer ∈ stopped.timers.timers,
      timer ∈ world.timers.timers ∧ timer.id ∉ scene.retriggers ∧ timer.id ∉ scene.sounds.pending := by
    intro timer member
    obtain ⟨earlier, quiet⟩ := SoundChain.mem_timers_stop.mp member
    obtain ⟨old, set⟩ := World.mem_cancelTimers.mp earlier
    exact ⟨old, set, quiet⟩
  have cut : World.Kept lost loose (heldBy scene.characters ++ [])
      (spritesOf scene.characters ++ scene.background.toList) cancelled :=
    (kept.kept.perm (.of_eq (List.append_nil _).symm) List.perm_append_comm).sound
      (World.sounds_cancelTimers _ world)
  have gone : World.Kept lost loose [] scene.background.toList left :=
    kept_disappearEach scene.characters kept.coherent
      (cut.sound (scene.sounds.sounds_stop cancelled))
  have starts : ∀ timer ∈ left.timers.timers, timer.Starts := by
    intro timer member
    rcases (acts_disappearEach scene.characters stopped).timers timer member with old | new
    · obtain ⟨there, set, quiet⟩ := waits timer old
      exact starts_of_left kept.plans kept.recalls there quiet set
    · exact new
  unfold teardown
  rw [if_neg stands]
  cases drawn : scene.background with
  | none =>
    rw [drawn] at gone
    exact ⟨gone.congr rfl rfl rfl, starts⟩
  | some sprite =>
    rw [drawn] at gone
    have destroyed : World.Kept lost loose [] [] (left.destroySprite sprite) := gone.destroy
    exact ⟨destroyed.congr rfl rfl rfl, starts⟩

theorem quiet_teardown (scene : Scene) (world : World) :
    world.Quiet (scene.teardown world).2 := by
  unfold teardown
  split
  · exact .of_eq rfl
  · have cut := (World.sounds_cancelTimers scene.retriggers world).events.quiet
    have stopped := cut.trans (scene.sounds.sounds_stop _).events.quiet
    have left := stopped.trans (acts_disappearEach scene.characters _).events.quiet
    cases drawn : scene.background with
    | none => exact left.trans (World.quiet_report _ not_false)
    | some sprite => exact left.trans (World.quiet_report _ not_false)

end Scene

end Storybook
