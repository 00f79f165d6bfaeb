/-
**A touch runs whole chains, once and in order.**

When the characters of a name are touched, those run their chains for touches that have one and have come
onto the stage, in the order of the story. Each effect of a chain runs once, in the world that the effects
before it have left, and nothing else happens: it is reported that the effect runs, and which sound it
starts, if it starts one. The chains are those of the story, without what could not be used.

* `World.Fires`: effects run one after the other, `World.Fires.events`: what is reported then;
* `Character.Binds`: the chain for touches is of the story, `Character.binds_endures`: it always is;
* `Character.settle`: a character whose effects have run;
* `Player.TouchesNamed`: what comes of a touch of all characters of a name;
* `Player.touches_named`: that, in every state that a player comes to.
-/

import Storybook.Proofs.Enduring
import Storybook.Proofs.Omissions
import Storybook.Proofs.Sounding.Voices

namespace Storybook

/-! ### Effects -/

namespace Effect

/-- An effect as it was when it was built. -/
def atFirst : Effect → Effect
  | move sprite velocity pause _ => move sprite velocity pause .idle
  | fadeOut sprite speed _ => fadeOut sprite speed .idle
  | spin sprite speed _ => spin sprite speed .idle
  | effect => effect

theorem atFirst_execute (effect : Effect) (world : World) :
    (effect.execute world).1.atFirst = effect.atFirst := by
  cases effect <;> rfl

/-- An effect without a sound reports nothing, and leaves all sounds alone. -/
theorem still_execute {effect : Effect} (silent : effect.sound? = none) (world : World) :
    (effect.execute world).2.events = world.events ∧ (effect.execute world).2.audio = world.audio := by
  cases effect with
  | audio sound => cases silent
  | move sprite velocity pause state =>
    show (state.execute sprite velocity pause world).2.events = _ ∧
      (state.execute sprite velocity pause world).2.audio = _
    unfold MoveState.execute
    split
    · unfold MoveState.start
      by_cases sudden : pause = 0 <;> simp [sudden, World.registerMotion, World.schedule]
    · exact ⟨rfl, rfl⟩
  | bounce sprite offset => exact ⟨rfl, rfl⟩
  | transition sprite image texture => exact ⟨rfl, rfl⟩
  | fadeOut sprite speed state =>
    show (state.execute sprite speed world).2.events = _ ∧ (state.execute sprite speed world).2.audio = _
    unfold FadeState.execute
    split <;> exact ⟨rfl, rfl⟩
  | spin sprite speed state => cases state <;> exact ⟨rfl, rfl⟩

/-- **An effect reports the sound that it starts, and nothing else.** -/
theorem events_execute (effect : Effect) (world : World) :
    (effect.execute world).2.events.toList = world.events.toList ++
        effect.sound?.toList.map (fun sound => .soundStarted sound ⟨world.audio.issued + 1⟩) ∧
      (effect.execute world).2.audio.issued = world.audio.issued + effect.sound?.toList.length := by
  cases sounds : effect.sound? with
  | none =>
    obtain ⟨events, audio⟩ := still_execute sounds world
    rw [events, audio]
    simp
  | some sound =>
    have plays : effect = .audio sound := by
      cases effect <;> simp_all [sound?]
    subst plays
    have hushed : (silence sound world).events = world.events ∧
        (silence sound world).audio.issued = world.audio.issued := by
      unfold silence
      split <;> exact ⟨rfl, rfl⟩
    show ((silence sound world).playSound sound).2.events.toList = _ ∧
      ((silence sound world).playSound sound).2.audio.issued = _
    simp [World.playSound, World.report, Audio.play, hushed]

end Effect

/-! ### Effects that run one after the other -/

/-- An effect of a character that has run, and what it has become. -/
structure Firing where
  character : CharacterId
  effect : Effect
  after : Effect
deriving DecidableEq, Repr

/-- The effect that ran, and whose it is. -/
def Firing.start (firing : Firing) : CharacterId × Effect :=
  (firing.character, firing.effect)

/-- **Effects run one after the other**: each is reported, and then runs in the world that those before it
have left. -/
inductive World.Fires (trigger : Trigger) : World → List Firing → World → Prop
  | nil {world : World} : Fires trigger world [] world
  | cons {world last : World} {firing : Firing} {rest : List Firing}
      (runs : (firing.effect.execute
        (world.report (.effectExecuted firing.character trigger firing.effect.kind))).1 = firing.after)
      (further : Fires trigger (firing.effect.execute
        (world.report (.effectExecuted firing.character trigger firing.effect.kind))).2 rest last) :
      Fires trigger world (firing :: rest) last

/-- What is reported of some effects that run, when so many sounds have been played before: each of them, and
after it the sound that it starts. -/
def Firing.reports (trigger : Trigger) : Nat → List Firing → List Event
  | _, [] => []
  | issued, firing :: rest =>
    let sounds := firing.effect.sound?.toList
    (.effectExecuted firing.character trigger firing.effect.kind ::
      sounds.map fun sound => .soundStarted sound ⟨issued + 1⟩) ++ reports trigger (issued + sounds.length) rest

namespace World.Fires

variable {trigger : Trigger} {world middle last : World} {firings others : List Firing}

theorem append (first : world.Fires trigger firings middle) (further : middle.Fires trigger others last) :
    world.Fires trigger (firings ++ others) last := by
  induction first with
  | nil => exact further
  | cons runs _ ih => exact .cons runs (ih further)

/-- **It is reported which effects run and which sounds they start, and nothing else.** -/
theorem events (fires : world.Fires trigger firings last) :
    last.events.toList = world.events.toList ++ Firing.reports trigger world.audio.issued firings := by
  induction fires with
  | nil => exact (List.append_nil _).symm
  | @cons world last firing rest runs further ih =>
    obtain ⟨sounds, issued⟩ := firing.effect.events_execute
      (world.report (.effectExecuted firing.character trigger firing.effect.kind))
    rw [ih, sounds, issued, Firing.reports]
    simp [World.report]

end World.Fires

namespace Chain

/-- No effect of a chain becomes another one. -/
theorem atFirst_fireEach (trigger : Trigger) (character : CharacterId) (effects : List Effect)
    (world : World) : (fireEach trigger character effects world).1.map Effect.atFirst =
      effects.map Effect.atFirst := by
  induction effects generalizing world with
  | nil => rfl
  | cons effect rest ih => exact congrArg₂ List.cons (effect.atFirst_execute _) (ih _)

/-- **A chain runs its effects in order.** -/
theorem fires_fireEach (trigger : Trigger) (character : CharacterId) (effects : List Effect)
    (world : World) : ∃ firings, world.Fires trigger firings (fireEach trigger character effects world).2 ∧
      firings.map Firing.start = effects.map (character, ·) ∧
      firings.map Firing.after = (fireEach trigger character effects world).1 := by
  induction effects generalizing world with
  | nil => exact ⟨[], .nil, rfl, rfl⟩
  | cons effect rest ih =>
    let ran := effect.execute (world.report (.effectExecuted character trigger effect.kind))
    obtain ⟨firings, further, starts, ends⟩ := ih ran.2
    refine ⟨⟨character, effect, ran.1⟩ :: firings, .cons rfl further, ?_, ?_⟩
    · rw [List.map_cons, starts]
      rfl
    · rw [List.map_cons, ends]
      rfl

end Chain

/-! ### Chains of the story -/

/-- An effect that was just built is as at first. -/
theorem Effect.atFirst_build {resources : Asset.Resources} {offset : Single} {sprite : SpriteId}
    {spec : Story.Effect} {effect : Effect} (built : build resources offset sprite spec = .ok effect) :
    effect.atFirst = effect := by
  cases spec with
  | audio sound =>
    simp only [build] at built
    split at built <;> cases built
    rfl
  | transition image =>
    simp only [build] at built
    split at built <;> cases built
    rfl
  | unresolved name fault => cases built
  | _ =>
    cases built
    rfl

namespace Binder

theorem map_atFirst_usable (binder : Binder) (resources : Asset.Resources) (sprite : SpriteId)
    (effects : List Story.Effect) :
    (usable (binder.builds resources sprite effects)).map Effect.atFirst =
      usable (binder.builds resources sprite effects) := by
  have same : ∀ effect ∈ usable (binder.builds resources sprite effects), effect.atFirst = effect := by
    intro effect member
    obtain ⟨spec, _, built⟩ := List.mem_map.mp (mem_usable.mp member)
    exact Effect.atFirst_build built
  rw [List.map_congr_left same, List.map_id']

variable {binder : Binder} {resources : Asset.Resources} {sprite : SpriteId}

/-- A chain for touches, if there is one, has what can be used of an action for touches. -/
structure Answers (binder : Binder) (resources : Asset.Resources) (sprite : SpriteId)
    (actions : List (String × List Story.Effect)) (bound : Bound) : Prop where
  assets : bound.world.resources = resources
  touch : ∀ chain, bound.bindings.touch = some chain → chain.trigger = .touch ∧
    ∃ effects, (Trigger.touch.key, effects) ∈ actions ∧
      chain.effects = usable (binder.builds resources sprite effects)

theorem Answers.bindAction {actions : List (String × List Story.Effect)} {bound : Bound}
    (answers : binder.Answers resources sprite actions bound) (name : String)
    {action : String × List Story.Effect} (listed : action ∈ actions) :
    binder.Answers resources sprite actions (binder.bindAction name sprite bound action) := by
  have assets := (binder.works_bindAction name sprite bound action).resources.trans answers.assets
  refine ⟨assets, ?_⟩
  unfold Binder.bindAction
  split
  · exact answers.touch
  · rename_i trigger known
    cases trigger with
    | onLoad => exact answers.touch
    | touch =>
      rintro _ ⟨⟩
      refine ⟨rfl, action.2, ?_, ?_⟩
      · rw [← Trigger.ofKey?_eq_some.mp known]
        exact listed
      · rw [answers.assets]
        rfl

theorem answers_bind (binder : Binder) (spec : Story.Character) (sprite : SpriteId) (world : World) :
    binder.Answers world.resources sprite spec.actions (binder.bind spec sprite world) := by
  have begun : binder.Answers world.resources sprite spec.actions ⟨.none, [], world⟩ := ⟨rfl, nofun⟩
  exact List.foldlRecOn spec.actions (binder.bindAction spec.name sprite) begun
    fun _ answers _ listed => answers.bindAction spec.name listed

end Binder

namespace Character

/-- **A chain for touches is of the story**: it has the effects of an action for touches that can be used, in
their order, on the sprite of the character. -/
def Binds (resources : Asset.Resources) (character : Character) : Prop :=
  ∀ chain, character.bindings.touch = some chain → chain.trigger = .touch ∧
    ∃ (binder : Binder) (sprite : SpriteId) (effects : List Story.Effect),
      character.sprite = some sprite ∧ (Trigger.touch.key, effects) ∈ character.spec.actions ∧
        chain.effects.map Effect.atFirst = Binder.usable (binder.builds resources sprite effects)

variable {resources : Asset.Resources} {character : Character} {world : World}

/-- What has become of a character that was touched. -/
theorem touch_eq {sprite : SpriteId} {chain : Chain} (stands : character.sprite = some sprite)
    (bound : character.bindings.touch = some chain) (world : World) :
    character.touch world = (true,
      { character with bindings := { character.bindings with
          touch := some (chain.fire character.id world).1 } }, (chain.fire character.id world).2) := by
  unfold touch
  rw [stands, bound]

theorem binds_enterStage (character : Character) (binder : Binder) (texture : Asset.Texture)
    (loaded : world.resources = resources) :
    (character.enterStage binder texture world).1.Binds resources := by
  let made := world.createSprite (newSprite character.spec texture)
  let bound := binder.bind character.spec made.1 made.2
  have answers : binder.Answers resources made.1 character.spec.actions bound :=
    loaded ▸ binder.answers_bind character.spec made.1 made.2
  have arrives := character.arrives_enterStage binder texture world
  have touch : (character.enterStage binder texture world).1.bindings.touch = bound.bindings.touch := by
    let shown := ((bound.world.reportAll (bound.skipped.map (.effectSkipped character.name))).attachSprite
      made.1).report (.characterShown character.id character.name)
    let fired := (character.dressed made.1 bound.bindings).fireOnLoad shown
    obtain ⟨gravity, same⟩ := startGravity_fst fired.1 made.1 fired.2
    show (fired.1.startGravity made.1 fired.2).1.bindings.touch = _
    rw [same]
    exact touch_fireOnLoad _ shown
  intro chain holds
  rw [touch] at holds
  obtain ⟨trigger, effects, listed, same⟩ := answers.touch chain holds
  refine ⟨trigger, binder, made.1, effects, arrives.sprite, ?_, ?_⟩
  · rw [arrives.spec]
    exact listed
  · rw [same, Binder.map_atFirst_usable]

theorem Binds.withdraw (binds : character.Binds resources) (world : World) :
    (character.withdraw world).1.Binds resources := by
  unfold Character.withdraw
  split
  · exact nofun
  · exact binds

theorem Binds.appear (binds : character.Binds resources) (binder : Binder)
    (loaded : world.resources = resources) : (character.appear binder world).1.Binds resources := by
  rw [appear_eq]
  split
  · apply binds_enterStage
    rw [(character.turns_withdraw world).acts.resources, loaded]
  · exact binds.withdraw world

theorem Binds.touch (binds : character.Binds resources) (world : World) :
    (character.touch world).2.1.Binds resources := by
  cases bound : character.bindings.touch with
  | none =>
    have same : (character.touch world).2.1 = character := by
      unfold Character.touch
      rw [bound]
      split <;> simp_all
    rw [same]
    exact binds
  | some chain =>
    obtain ⟨trigger, binder, sprite, effects, stands, listed, same⟩ := binds chain bound
    rw [touch_eq stands bound]
    rintro _ ⟨⟩
    refine ⟨trigger, binder, sprite, effects, stands, listed, ?_⟩
    exact (Chain.atFirst_fireEach chain.trigger character.id chain.effects world).trans same

/-- **Whatever becomes of a character, its chain for touches is of the story.** -/
theorem binds_endures (resources : Asset.Resources) : Endures resources (Binds resources) where
  ofSpec _ _ := nofun
  appear binder _ loaded binds := binds.appear binder loaded
  touch world binds := binds.touch world

end Character

/-! ### One touch after the other -/

namespace Character

/-- A character runs its effects when those of a name are touched: it has the name, a sprite and a chain for
touches. -/
def isTouched (name : String) (character : Character) : Bool :=
  character.name = name && character.sprite.isSome && character.bindings.touch.isSome

/-- **A character whose effects have run**, if it does that when those of a name are touched: they are what
they have become, among all that have run. -/
def settle (name : String) (firings : List Firing) (character : Character) : Character :=
  if character.isTouched name then
    { character with bindings := { character.bindings with
        touch := character.bindings.touch.map fun chain => { chain with
          effects := (firings.filter fun firing => firing.character = character.id).map Firing.after } } }
  else
    character

/-- The effects that a character runs when it is touched, and whose they are. -/
def touchStarts (character : Character) : List (CharacterId × Effect) :=
  (Bindings.effectsOf character.bindings.touch).map (character.id, ·)

variable {resources : Asset.Resources} {character : Character} {name : String} {firings : List Firing}

/-- What a character starts is its own. -/
theorem fst_of_mem_touchStarts {start : CharacterId × Effect} (member : start ∈ character.touchStarts) :
    start.1 = character.id := by
  obtain ⟨effect, _, rfl⟩ := List.mem_map.mp member
  rfl

/-- What others run does not matter, neither later nor before. -/
theorem settle_append_left {later : List Firing}
    (strange : ∀ firing ∈ later, firing.character ≠ character.id) :
    character.settle name (firings ++ later) = character.settle name firings := by
  have none : (later.filter fun firing => firing.character = character.id) = [] :=
    List.filter_eq_nil_iff.mpr (by simpa using strange)
  unfold settle
  rw [List.filter_append, none, List.append_nil]

theorem settle_append_right {later : List Firing}
    (strange : ∀ firing ∈ firings, firing.character ≠ character.id) :
    character.settle name (firings ++ later) = character.settle name later := by
  have none : (firings.filter fun firing => firing.character = character.id) = [] :=
    List.filter_eq_nil_iff.mpr (by simpa using strange)
  unfold settle
  rw [List.filter_append, none, List.nil_append]

theorem remains_settle (name : String) (firings : List Firing) (character : Character) :
    character.Remains (character.settle name firings) := by
  unfold settle
  split <;> exact ⟨rfl, rfl⟩

/-- A character that runs no effects is left as it is. -/
theorem settle_of_not_isTouched (idle : character.isTouched name = false) :
    character.settle name firings = character := by
  rw [settle, if_neg (ne_true_of_eq_false idle)]

/-- A character that can run its effects does so. -/
theorem touch_of_isTouched (binds : character.Binds resources) (touched : character.isTouched name)
    (world : World) : ∃ firings, world.Fires .touch firings (character.touch world).2.2 ∧
      firings.map Firing.start = character.touchStarts ∧
      character.touch world = (true, character.settle name firings, (character.touch world).2.2) := by
  obtain ⟨⟨_, shown⟩, answers⟩ : (character.name = name ∧ character.sprite.isSome) ∧
      character.bindings.touch.isSome := by simpa [isTouched] using touched
  obtain ⟨sprite, stands⟩ := Option.isSome_iff_exists.mp shown
  obtain ⟨chain, bound⟩ := Option.isSome_iff_exists.mp answers
  obtain ⟨trigger, _⟩ := binds chain bound
  obtain ⟨firings, fires, starts, ends⟩ :=
    Chain.fires_fireEach chain.trigger character.id chain.effects world
  have begun : firings.map Firing.start = character.touchStarts := by
    rw [starts, touchStarts, bound]
    rfl
  have mine : (firings.filter fun firing => firing.character = character.id) = firings := by
    refine List.filter_eq_self.mpr fun firing member => decide_eq_true ?_
    exact fst_of_mem_touchStarts (begun ▸ List.mem_map_of_mem member)
  rw [touch_eq stands bound]
  refine ⟨firings, trigger ▸ fires, begun, ?_⟩
  unfold settle
  rw [if_pos touched, mine, bound, ends]
  rfl

/-- **A character of the name that is touched runs its chain**, if it can, and answers whether it does. -/
theorem touch_of_name (binds : character.Binds resources) (named : character.name = name) (world : World) :
    ∃ firings, world.Fires .touch firings (character.touch world).2.2 ∧
      firings.map Firing.start = ([character].filter (isTouched name)).flatMap touchStarts ∧
      character.touch world =
        (character.isTouched name, character.settle name firings, (character.touch world).2.2) := by
  cases touched : character.isTouched name with
  | false =>
    have idle : character.touch world = (false, character, world) := by
      unfold touch
      split
      · rename_i stands bound
        simp [isTouched, named, stands, bound] at touched
      · rfl
    rw [idle, List.filter_cons_of_neg (ne_true_of_eq_false touched)]
    exact ⟨[], .nil, rfl, by rw [settle_of_not_isTouched touched]⟩
  | true =>
    obtain ⟨firings, fires, starts, touches⟩ := touch_of_isTouched binds touched world
    refine ⟨firings, fires, ?_, touches⟩
    rw [starts, List.filter_cons_of_pos touched]
    exact (List.flatMap_singleton ..).symm

end Character

/-- What runs is of the characters that are touched. -/
theorem Firing.exists_character {name : String} {characters : List Character} {firings : List Firing}
    (starts : firings.map Firing.start =
      (characters.filter (Character.isTouched name)).flatMap Character.touchStarts) :
    ∀ firing ∈ firings, ∃ character ∈ characters, firing.character = character.id := by
  intro firing member
  have started : firing.start ∈ firings.map Firing.start := List.mem_map_of_mem member
  rw [starts] at started
  obtain ⟨character, touched, own⟩ := List.mem_flatMap.mp started
  exact ⟨character, List.mem_of_mem_filter touched, Character.fst_of_mem_touchStarts own⟩

/-- What the first of some characters has run and what the others have run is told apart by the numbers. -/
theorem Firing.map_settle_cons {name : String} {character : Character} {others : List Character}
    {mine later : List Firing}
    (begun : mine.map Firing.start =
      ([character].filter (Character.isTouched name)).flatMap Character.touchStarts)
    (started : later.map Firing.start =
      (others.filter (Character.isTouched name)).flatMap Character.touchStarts)
    (apart : ∀ other ∈ others, other.id ≠ character.id) :
    (character :: others).map (Character.settle name (mine ++ later)) =
      character.settle name mine :: others.map (Character.settle name later) := by
  have same : character.settle name (mine ++ later) = character.settle name mine := by
    refine Character.settle_append_left fun firing member => ?_
    obtain ⟨other, inside, theirs⟩ := Firing.exists_character started firing member
    rw [theirs]
    exact apart other inside
  have rest : others.map (Character.settle name (mine ++ later)) =
      others.map (Character.settle name later) := by
    refine List.map_congr_left fun other inside =>
      Character.settle_append_right fun firing member => ?_
    obtain ⟨single, only, theirs⟩ := Firing.exists_character begun firing member
    rw [theirs, List.mem_singleton.mp only]
    exact (apart other inside).symm
  rw [List.map_cons, same, rest]

/-- The characters of a name that run their effects when they are touched. -/
def Scene.touched (scene : Scene) (name : String) : List Character :=
  scene.characters.filter (Character.isTouched name)

/-- A character that is as it was is put into the scene. -/
theorem Scene.setCharacter_eq_self {scene : Scene} {id : CharacterId} {character : Character}
    (found : scene.character? id = some character) : scene.setCharacter id character = scene := by
  obtain ⟨inside, rfl⟩ := List.getElem?_eq_some_iff.mp found
  rw [Scene.setCharacter, List.set_getElem_self]

/-- No two characters of a scene have one number. -/
theorem Scene.Numbered.apart {scene : Scene} (numbered : scene.Numbered) {front rest : List Character}
    {character : Character} (parts : scene.characters = front ++ character :: rest) :
    character.id = ⟨front.length⟩ ∧ ∀ other ∈ rest, other.id ≠ character.id := by
  have own : character.id = ⟨front.length⟩ := by
    apply numbered
    simp [parts]
  refine ⟨own, fun other member same => ?_⟩
  obtain ⟨index, found⟩ := List.mem_iff_getElem?.mp member
  have further : other.id = ⟨front.length + (index + 1)⟩ := by
    apply numbered
    rw [parts, List.getElem?_append_right (by omega)]
    simpa using found
  rw [own, further, CharacterId.mk.injEq] at same
  omega

namespace Player

variable {resources : Asset.Resources} {player : Player} {scene : Scene} {name : String}

/-- A touch of one character, in an active scene. -/
theorem touch_eq_of_active (current : player.scene = some scene) (active : scene.state = .active)
    {id : CharacterId} {character : Character} (found : scene.character? id = some character) :
    player.touch id = ((character.touch player.world).1, { player with
      world := (character.touch player.world).2.2
      scene := some (scene.setCharacter id (character.touch player.world).2.1) }) := by
  unfold touch askScene Scene.touch
  simp only [current, found, if_pos active]

/-- One more character is touched, if it has the name. -/
theorem touchEach_cons (current : player.scene = some scene) (active : scene.state = .active)
    {character : Character} (found : scene.character? character.id = some character)
    (binds : character.Binds resources) (others : List Character) :
    ∃ firings last, player.world.Fires .touch firings last ∧
      firings.map Firing.start =
        ([character].filter (Character.isTouched name)).flatMap Character.touchStarts ∧
      let touched := touchEach ((others.filter (·.name = name)).map Character.id) { player with
        world := last
        scene := some (scene.setCharacter character.id (character.settle name firings)) }
      touchEach (((character :: others).filter (·.name = name)).map Character.id) player =
        (([character].filter (Character.isTouched name)).length + touched.1, touched.2) := by
  have unchanged : { player with
      world := player.world, scene := some (scene.setCharacter character.id character) } = player := by
    rw [Scene.setCharacter_eq_self found, ← current]
  by_cases named : character.name = name
  · have first : ((character :: others).filter (·.name = name)).map Character.id =
        character.id :: (others.filter (·.name = name)).map Character.id := by simp [named]
    obtain ⟨firings, fires, starts, touches⟩ := Character.touch_of_name binds named player.world
    refine ⟨firings, _, fires, starts, ?_⟩
    rw [first, touchEach, touch_eq_of_active current active found, touches]
    by_cases touched : character.isTouched name <;> simp [touched, Nat.add_comm]
  · have first : ((character :: others).filter (·.name = name)).map Character.id =
        (others.filter (·.name = name)).map Character.id := by simp [named]
    have idle : character.isTouched name = false := by simp [Character.isTouched, named]
    refine ⟨[], player.world, .nil, ?_, ?_⟩
    · rw [List.filter_cons_of_neg (by simp [idle])]
      rfl
    · rw [first, List.filter_cons_of_neg (by simp [idle]), Character.settle_of_not_isTouched idle, unchanged]
      simp

/-- **The characters of a name are touched one after the other**: from one of them on, what runs is of those
that are still to come. -/
theorem touchEach_eq (name : String) (rest : List Character) :
    ∀ (player : Player) (scene : Scene) (front : List Character), player.scene = some scene →
      scene.state = .active → scene.Numbered → scene.characters = front ++ rest →
      (∀ character ∈ rest, character.Binds resources) →
      ∃ firings last, player.world.Fires .touch firings last ∧
        firings.map Firing.start = (rest.filter (Character.isTouched name)).flatMap Character.touchStarts ∧
        touchEach ((rest.filter (·.name = name)).map Character.id) player =
          ((rest.filter (Character.isTouched name)).length, { player with
            world := last
            scene := some { scene with
              characters := front ++ rest.map (Character.settle name firings) } }) := by
  induction rest with
  | nil =>
    intro player scene front current _ _ parts _
    refine ⟨[], player.world, .nil, rfl, ?_⟩
    rw [List.map_nil, ← parts, ← current]
    rfl
  | cons character others ih =>
    intro player scene front current active numbered parts binds
    obtain ⟨head, tail⟩ := List.forall_mem_cons.mp binds
    obtain ⟨own, apart⟩ := numbered.apart parts
    have found := numbered.found (parts ▸ List.mem_append_right front List.mem_cons_self)
    obtain ⟨mine, middle, first, begun, touches⟩ := touchEach_cons current active found head others
    -- The rest of the scene is as it was.
    have settled : (scene.setCharacter character.id (character.settle name mine)).characters =
        front ++ [character.settle name mine] ++ others := by
      simp [Scene.setCharacter, parts, own]
    obtain ⟨later, last, further, started, touched⟩ := ih { player with
        world := middle, scene := some (scene.setCharacter character.id (character.settle name mine)) }
      _ (front ++ [character.settle name mine]) rfl active
      (numbered.setCharacter found (character.remains_settle name mine)) settled tail
    refine ⟨mine ++ later, last, first.append further, ?_, ?_⟩
    · rw [List.map_append, begun, started, ← List.flatMap_append, ← List.filter_append]
      rfl
    · have settles := Firing.map_settle_cons begun started apart
      have count : ([character].filter (Character.isTouched name)).length +
          (others.filter (Character.isTouched name)).length =
            ((character :: others).filter (Character.isTouched name)).length := by
        rw [← List.length_append, ← List.filter_append]
        rfl
      rw [settles, List.append_cons, touches, touched, ← count]
      rfl

/-- **What comes of a touch of all characters of a name**: the effects run one after the other, those of each
character in their order, and no others; they are what they have become, and nothing else is done in the
scene. The answer is how many characters there are that run their effects, and it is reported which effects
have run and which sounds they have started. -/
structure TouchesNamed (player : Player) (scene : Scene) (name : String) (firings : List Firing)
    (last : World) : Prop where
  fires : player.world.Fires .touch firings last
  order : firings.map Firing.start = (scene.touched name).flatMap Character.touchStarts
  answer : player.touchNamed name = ((scene.touched name).length, { player with
    world := last
    scene := some { scene with characters := scene.characters.map (Character.settle name firings) } })
  events : last.events.toList = player.world.events.toList ++
    Firing.reports .touch player.world.audio.issued firings

theorem touchNamed_none (none : player.scene = none) : player.touchNamed name = (0, player) := by
  unfold touchNamed
  rw [none]

theorem exists_touchesNamed {document : Story.Document} (current : player.scene = some scene)
    (upkeeps : scene.Upkeeps document (Character.Binds resources)) (name : String) :
    ∃ firings last, player.TouchesNamed scene name firings last := by
  obtain ⟨firings, last, fires, order, touches⟩ := touchEach_eq name scene.characters player scene []
    current upkeeps.active upkeeps.numbered rfl upkeeps.all
  refine ⟨firings, last, fires, order, ?_, fires.events⟩
  unfold touchNamed
  rw [current]
  exact touches

/-- **A touch of all characters of a name runs whole chains, once and in order**, in every state that a player
comes to. The chains are those of the characters of the scene in play, if there is one, which stand in the
order of the story. -/
theorem touches_named (document : Story.Document) (resources : Asset.Resources) (audio : Audio)
    (viewport : Viewport) (options : SceneOptions) {player : Player}
    (visits : (ofResources document resources audio viewport options).Visits player) (name : String) :
    (player.scene = none → player.touchNamed name = (0, player)) ∧
      ∀ scene, player.scene = some scene →
        scene.Upkeeps document (Character.Binds resources) ∧
          ∃ firings last, player.TouchesNamed scene name firings last := by
  refine ⟨touchNamed_none, fun scene current => ?_⟩
  have upkeeps := (visits.upkeeps (Character.binds_endures resources)).scene scene current
  exact ⟨upkeeps, exists_touchesNamed current upkeeps name⟩

/-- A story with a cat and four dogs. One of the dogs cannot be shown, one cannot be touched, and one has
nothing to do then. -/
def kennelStory : Story.Document where
  style := .standard
  splash := ⟨"s.png", "s.mp3"⟩
  start := "kennel"
  scenes :=
    [("kennel", ⟨"bg.png", [], [⟨"Dog", "fox.png", ⟨0, 0⟩, none, [("touch", [.spin 1])]⟩,
      ⟨"Dog", "dog.png", ⟨10, 20⟩, none, [("touch", [.spin 1, .audio "lost.mp3", .audio "bark.mp3"])]⟩,
      ⟨"Dog", "dog.png", ⟨30, 20⟩, none, [("onload", [.spin 1])]⟩,
      ⟨"Cat", "dog.png", ⟨50, 20⟩, none, [("touch", [.spin 2])]⟩,
      ⟨"Dog", "dog.png", ⟨70, 20⟩, none, [("touch", [])]⟩]⟩)]

/-- A player of that story. -/
def kennel : Player :=
  ofResources kennelStory ⟨[("bark.mp3", .sound ⟨some 1000⟩), ("dog.png", .texture ⟨64, 64⟩)]⟩
    (.silent 3000000000 []) ⟨800, 600⟩ .standard

/-- The kennel where the dogs have been touched. -/
def barkingKennel : Player :=
  (kennel.run [.enterScene "kennel", .touchNamed "Dog"]).takeEvents.2

/-- Two of the dogs answer when they are touched again. One of them stops spinning and barks a second time. -/
theorem dogs_bark : kennel.Visits barkingKennel ∧
    (∃ scene firings last, barkingKennel.scene = some scene ∧
      scene.Upkeeps kennelStory (Character.Binds barkingKennel.world.resources) ∧
        barkingKennel.TouchesNamed scene "Dog" firings last) ∧
      (barkingKennel.touchNamed "Dog").1 = 2 ∧
        (barkingKennel.touchNamed "Dog").2.world.events.toList = [.effectExecuted ⟨1⟩ .touch .spin,
          .effectExecuted ⟨1⟩ .touch .audio, .soundStarted "bark.mp3" ⟨2⟩] := by
  have visits : kennel.Visits barkingKennel := .takeEvents (kennel.visits_run _)
  have current : barkingKennel.scene = some (barkingKennel.scene.get (by decide +kernel)) :=
    (Option.some_get _).symm
  obtain ⟨upkeeps, firings, last, touches⟩ := (touches_named _ _ _ _ _ visits "Dog").2 _ current
  exact ⟨visits, ⟨_, firings, last, current, upkeeps, touches⟩, by decide +kernel, by decide +kernel⟩

end Player

end Storybook
