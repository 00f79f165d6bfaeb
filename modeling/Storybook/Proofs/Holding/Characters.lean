/-
**Characters hold what they put into the world.**

A character that appears owns a new sprite, and its effects, which are bound anew, hold what they
start. A character that disappears gives up its sprite, and nothing that it held is left.

* `Binder.Fresh`: what the binding of actions to a sprite comes to;
* `Character.Coherent`: the effects of a character work on its own sprite;
* `Character.Turns`: a character turns into another state, and the world stays kept, with the places
  of the character beside all others;
* `Character.runs_touch`, `Character.turns_disappear`, `Character.turns_appear`: what it does.
-/

import Storybook.Proofs.Holding.Kept

namespace Storybook

variable {lost : Losses} {loose : List Loose} {others : List Holding} {owners : List SpriteId}

theorem holdingsOf_append (first second : List Effect) :
    holdingsOf (first ++ second) = holdingsOf first ++ holdingsOf second :=
  List.filterMap_append

/-! ### Binding -/

namespace Effect

/-- An effect that is built works on the given sprite, and holds nothing. -/
theorem new_of_build {resources : Asset.Resources} {offset : Single} {sprite : SpriteId}
    {spec : Story.Effect} {effect : Effect} (built : build resources offset sprite spec = .ok effect) :
    effect.holding? = none ∧ ∀ other ∈ effect.sprite?, other = sprite := by
  cases spec with
  | audio sound =>
    simp only [build] at built
    split at built <;> cases built
    exact ⟨rfl, fun _ none => nomatch none⟩
  | transition image =>
    simp only [build] at built
    split at built <;> cases built
    exact ⟨rfl, fun _ same => (Option.some.inj same).symm⟩
  | unresolved name fault => cases built
  | move speed direction pause =>
    cases built
    exact ⟨rfl, fun _ same => (Option.some.inj same).symm⟩
  | bounce speed =>
    cases built
    exact ⟨rfl, fun _ same => (Option.some.inj same).symm⟩
  | fadeOut speed =>
    cases built
    exact ⟨rfl, fun _ same => (Option.some.inj same).symm⟩
  | spin speed =>
    cases built
    exact ⟨rfl, fun _ same => (Option.some.inj same).symm⟩

end Effect

/-- An effect of bindings after a chain is bound is one of the chain or was bound before. -/
theorem Bindings.mem_effects_set {bindings : Bindings} {chain : Chain} {effect : Effect}
    (member : effect ∈ (bindings.set chain).effects) :
    effect ∈ bindings.effects ∨ effect ∈ chain.effects := by
  unfold set at member
  split at member <;> rcases List.mem_append.mp member with inside | inside
  · exact Or.inr inside
  · exact Or.inl (List.mem_append_right _ inside)
  · exact Or.inl (List.mem_append_left _ inside)
  · exact Or.inr inside

namespace Binder

/-- The binding of actions to a sprite has made new effects for it, and changed nothing in the world
but the look of sprites and the remarks. -/
structure Fresh (sprite : SpriteId) (world : World) (bound : Bound) : Prop where
  effects : ∀ effect ∈ bound.bindings.effects,
    effect.holding? = none ∧ ∀ other ∈ effect.sprite?, other = sprite
  stage : world.stage.Keeps bound.world.stage
  animator : bound.world.animator = world.animator
  timers : bound.world.timers = world.timers
  audio : bound.world.audio = world.audio
  resources : bound.world.resources = world.resources
  events : bound.world.events = world.events

theorem Fresh.acts {sprite : SpriteId} {world : World} {bound : Bound}
    (fresh : Fresh sprite world bound) : world.Acts bound.world :=
  ⟨fresh.resources, fresh.stage.follows, Nat.le_of_eq (by rw [fresh.animator]),
    fun _ member => Or.inl (fresh.timers ▸ member), .of_eq fresh.events⟩

theorem mem_usable {built : List (Except SkippedEffect Effect)} {effect : Effect} :
    effect ∈ usable built ↔ .ok effect ∈ built := by
  unfold usable
  rw [List.mem_filterMap]
  constructor
  · rintro ⟨tried, member, made⟩
    cases tried with
    | ok other =>
      cases made
      exact member
    | error skipped => cases made
  · exact fun member => ⟨_, member, rfl⟩

/-- Remarks on effects that are left out change nothing else. -/
theorem foldl_remarkSkipped (name : String) (trigger : Trigger) (skipped : List SkippedEffect) :
    ∀ world : World, ∃ remarks,
      skipped.foldl (remarkSkipped name trigger) world = { world with remarks } := by
  induction skipped with
  | nil => exact fun world => ⟨world.remarks, rfl⟩
  | cons first later ih => exact fun world => ih (remarkSkipped name trigger world first)

theorem fresh_bindAction (binder : Binder) (name : String) (sprite : SpriteId) {world : World}
    {bound : Bound} (fresh : Fresh sprite world bound) (action : String × List Story.Effect) :
    Fresh sprite world (binder.bindAction name sprite bound action) := by
  unfold bindAction
  split
  · exact { fresh with }
  · rename_i trigger _
    obtain ⟨remarks, same⟩ := foldl_remarkSkipped name trigger
      (unusable (action.2.map (Effect.build bound.world.resources binder.offset sprite)))
      bound.world
    dsimp only
    rw [same]
    refine ⟨fun effect member => ?_, ?_, ?_, ?_, ?_, ?_, ?_⟩
    · rcases Bindings.mem_effects_set member with old | new
      · exact fresh.effects effect old
      · obtain ⟨spec, _, built⟩ := List.mem_map.mp (mem_usable.mp new)
        exact Effect.new_of_build built
    · split
      · dsimp only [makeTouchable, World.modifySprite]
        exact fresh.stage.trans (Stage.keeps_modify _ sprite _)
      · exact fresh.stage
    · split <;> exact fresh.animator
    · split <;> exact fresh.timers
    · split <;> exact fresh.audio
    · split <;> exact fresh.resources
    · split <;> exact fresh.events

theorem fresh_bind (binder : Binder) (character : Story.Character) (sprite : SpriteId)
    (world : World) : Fresh sprite world (binder.bind character sprite world) := by
  have all : ∀ (actions : List (String × List Story.Effect)) (bound : Bound),
      Fresh sprite world bound →
        Fresh sprite world (actions.foldl (binder.bindAction character.name sprite) bound) := by
    intro actions
    induction actions with
    | nil => exact fun _ fresh => fresh
    | cons action later ih =>
      exact fun bound fresh => ih _ (binder.fresh_bindAction _ sprite fresh action)
  exact all character.actions ⟨.none, [], world⟩
    ⟨fun _ member => (nomatch member), .refl world.stage, rfl, rfl, rfl, rfl, rfl⟩

end Binder

namespace Character

/-! ### Coherent characters -/

/-- The effects of a character work on its own sprite, and so does its gravity. -/
structure Coherent (character : Character) : Prop where
  effects : ∀ effect ∈ character.bindings.effects, ∀ sprite ∈ effect.sprite?,
    character.sprite = some sprite
  gravity : character.sprite = none → character.gravity = none

/-- The motions of a character move its own sprite. -/
theorem Coherent.sprite {character : Character} (coherent : character.Coherent) {holding : Holding}
    (member : holding ∈ character.holdings) : character.sprite = some holding.motion.sprite := by
  rcases List.mem_append.mp member with inside | inside
  · obtain ⟨effect, bound, holds⟩ := List.mem_filterMap.mp inside
    exact coherent.effects effect bound _ (Effect.sprite?_of_holding? holds)
  · unfold gravityHolding? at inside
    split at inside
    · rename_i some
      cases List.mem_singleton.mp inside
      exact some
    · cases inside

/-- A character that is not on the stage holds nothing. -/
theorem Coherent.holdings {character : Character} (coherent : character.Coherent)
    (offstage : character.sprite = none) : character.holdings = [] := by
  refine List.eq_nil_iff_forall_not_mem.mpr fun holding member => ?_
  cases offstage.symm.trans (coherent.sprite member)

theorem coherent_ofSpec (id : CharacterId) (spec : Story.Character) :
    (ofSpec id spec).Coherent :=
  ⟨fun _ member => (nomatch member), fun _ => rfl⟩

/-- Chains that keep the sprites of their effects keep a character coherent. -/
theorem Coherent.congr {character after : Character} (coherent : character.Coherent)
    (sprite : after.sprite = character.sprite) (gravity : after.gravity = character.gravity)
    (effects : after.bindings.effects.map Effect.sprite? = character.bindings.effects.map
      Effect.sprite?) : after.Coherent := by
  refine ⟨fun effect member other works => ?_, ?_⟩
  · have listed : some other ∈ character.bindings.effects.map Effect.sprite? :=
      effects ▸ List.mem_map.mpr ⟨effect, member, works⟩
    obtain ⟨old, inside, same⟩ := List.mem_map.mp listed
    rw [sprite]
    exact coherent.effects old inside other same
  · rw [sprite, gravity]
    exact coherent.gravity

/-- Whatever becomes of a character, it has the same number and is the same in its story. -/
structure Remains (before after : Character) : Prop where
  id : after.id = before.id
  spec : after.spec = before.spec

theorem Remains.trans {first second third : Character} (left : first.Remains second)
    (right : second.Remains third) : first.Remains third :=
  ⟨right.id.trans left.id, right.spec.trans left.spec⟩

/-- What never changes of a character: its number and its part in the story. -/
def part (character : Character) : CharacterId × Story.Character :=
  (character.id, character.spec)

theorem Remains.part {before after : Character} (remains : before.Remains after) :
    after.part = before.part :=
  Prod.ext remains.id remains.spec

/-! ### Disappearing -/

variable (character : Character) (world : World)

theorem held_cancelChain (chain : Option Chain) {world : World}
    (held : Held loose (holdingsOf (Bindings.effectsOf chain) ++ others) world.animator
      world.timers) :
    Held loose others (Bindings.cancelChain chain world).animator
      (Bindings.cancelChain chain world).timers := by
  cases chain with
  | none => exact held
  | some chain => exact Chain.held_cancelEach chain.effects held

theorem acts_cancelChain (chain : Option Chain) (world : World) :
    world.Acts (Bindings.cancelChain chain world) := by
  cases chain with
  | none => exact .refl world
  | some chain => exact Chain.acts_cancelEach chain.effects world

theorem stage_cancelChain (chain : Option Chain) (world : World) :
    (Bindings.cancelChain chain world).stage = world.stage := by
  cases chain with
  | none => rfl
  | some chain => exact Chain.stage_cancelEach chain.effects world

/-- A character that disappears leaves nothing in the motions and the timers. -/
theorem held_disappear {character : Character} {world : World} (coherent : character.Coherent)
    (held : Held loose (character.holdings ++ others) world.animator world.timers) :
    Held loose others (character.disappear world).2.animator
      (character.disappear world).2.timers := by
  have cancelled : Held loose (character.gravityHolding?.toList ++ others)
      (character.bindings.cancel world).animator (character.bindings.cancel world).timers := by
    unfold Character.holdings Bindings.effects at held
    rw [holdingsOf_append, List.append_assoc, List.append_assoc] at held
    exact held_cancelChain _ (held_cancelChain _ held)
  have grounded := coherent.gravity
  unfold disappear
  unfold gravityHolding? at cancelled
  cases falls : character.gravity with
  | none =>
    rw [falls] at cancelled
    cases stands : character.sprite <;> exact cancelled
  | some tick =>
    cases stands : character.sprite with
    | none => cases (grounded stands).symm.trans falls
    | some sprite =>
      rw [falls, stands] at cancelled
      exact cancelled.deregister rfl

theorem acts_disappear : world.Acts (character.disappear world).2 := by
  have cancelled : world.Acts (character.bindings.cancel world) :=
    (acts_cancelChain _ _).trans (acts_cancelChain _ _)
  unfold disappear
  cases character.gravity <;> cases character.sprite
  · exact cancelled
  · exact cancelled.trans (World.acts_destroySprite _ _)
  · exact cancelled.trans (World.acts_deregisterMotion _ _)
  · exact (cancelled.trans (World.acts_deregisterMotion _ _)).trans (World.acts_destroySprite _ _)

/-- Only the sprite of a character goes when it disappears. -/
theorem stage_disappear :
    (character.disappear world).2.stage =
      match character.sprite with
      | some sprite => (world.stage.destroy sprite).2
      | none => world.stage := by
  have cancelled : (character.bindings.cancel world).stage = world.stage :=
    (stage_cancelChain _ _).trans (stage_cancelChain _ _)
  unfold disappear
  cases character.gravity <;> cases character.sprite <;>
    simp only [World.destroySprite, World.deregisterMotion, cancelled]

/-- **A character that disappears gives everything back.** -/
theorem kept_disappear {character : Character} {world : World} (coherent : character.Coherent)
    (kept : World.Kept lost loose (character.holdings ++ others)
      (character.sprite.toList ++ owners) world) :
    World.Kept lost loose others owners (character.disappear world).2 := by
  have held := held_disappear coherent kept.held
  have stage := character.stage_disappear world
  cases stands : character.sprite with
  | none =>
    rw [stands] at kept stage
    exact kept.work (stage ▸ .refl _) held
  | some sprite =>
    rw [stands] at kept stage
    have destroyed : World.Kept lost loose (character.holdings ++ others) owners
        (world.destroySprite sprite) := kept.destroy
    exact destroyed.work (stage ▸ .refl _) held

/-! ### Running chains -/

/-- What a character holds, chain by chain. -/
theorem holdings_eq : character.holdings
    = holdingsOf (Bindings.effectsOf character.bindings.onLoad)
      ++ (holdingsOf (Bindings.effectsOf character.bindings.touch)
        ++ character.gravityHolding?.toList) := by
  unfold Character.holdings Bindings.effects
  rw [holdingsOf_append, List.append_assoc]

/-- Between the two worlds a character has run effects of its own, and is else as it was. -/
structure Runs (before : Character) (first : World) (after : Character) (last : World) : Prop where
  remains : before.Remains after
  sprite : after.sprite = before.sprite
  gravity : after.gravity = before.gravity
  effects : after.bindings.effects.map Effect.sprite? = before.bindings.effects.map Effect.sprite?
  acts : first.Acts last
  stage : first.stage.Keeps last.stage
  held : ∀ {loose : List Loose} {others : List Holding},
    Held loose (before.holdings ++ others) first.animator first.timers →
      Held loose (after.holdings ++ others) last.animator last.timers

variable {character world}

theorem Runs.refl : character.Runs world character world :=
  ⟨⟨rfl, rfl⟩, rfl, rfl, rfl, .refl world, .refl world.stage, fun held => held⟩

variable (character world)

theorem runs_fireOnLoad :
    character.Runs world (character.fireOnLoad world).1 (character.fireOnLoad world).2 := by
  unfold fireOnLoad
  cases loads : character.bindings.onLoad with
  | none => exact .refl
  | some chain =>
    refine ⟨⟨rfl, rfl⟩, rfl, rfl, ?_, Chain.acts_fireEach _ _ chain.effects world,
      Chain.keeps_fireEach _ _ chain.effects world, fun held => ?_⟩
    · simp only [Bindings.effects, Bindings.effectsOf, Chain.fire, List.map_append,
        Chain.sprite?_fireEach, loads]
    · rw [holdings_eq, loads, List.append_assoc] at held
      rw [holdings_eq, List.append_assoc]
      exact Chain.held_fireEach chain.trigger character.id chain.effects held

theorem runs_touch :
    character.Runs world (character.touch world).2.1 (character.touch world).2.2 := by
  unfold touch
  split
  · rename_i sprite chain stands answers
    refine ⟨⟨rfl, rfl⟩, rfl, rfl, ?_, Chain.acts_fireEach _ _ chain.effects world,
      Chain.keeps_fireEach _ _ chain.effects world, fun held => ?_⟩
    · simp only [Bindings.effects, Bindings.effectsOf, Chain.fire, List.map_append,
        Chain.sprite?_fireEach, answers]
    · rw [holdings_eq, answers, List.append_assoc, List.append_assoc] at held
      rw [holdings_eq, List.append_assoc, List.append_assoc]
      have fired := Chain.held_fireEach chain.trigger character.id chain.effects
        (held.perm (List.perm_append_comm_assoc _ _ _))
      exact fired.perm (List.perm_append_comm_assoc _ _ _)
  · exact .refl

/-! ### Appearing -/

/-- Between the two worlds a character has turned into another state: the world stays kept, with the
place of the character beside all others. -/
structure Turns (before : Character) (first : World) (after : Character) (last : World) : Prop where
  remains : before.Remains after
  acts : first.Acts last
  coherent : before.Coherent → after.Coherent
  kept : before.Coherent → ∀ {lost : Losses} {loose : List Loose}
    {others : List Holding} {owners : List SpriteId},
    World.Kept lost loose (before.holdings ++ others) (before.sprite.toList ++ owners) first →
      World.Kept lost loose (after.holdings ++ others) (after.sprite.toList ++ owners) last

variable {character world}

theorem Turns.refl : character.Turns world character world :=
  ⟨⟨rfl, rfl⟩, .refl world, fun coherent => coherent, fun _ _ _ _ _ kept => kept⟩

theorem Turns.trans {middle after : Character} {between last : World}
    (left : character.Turns world middle between) (right : middle.Turns between after last) :
    character.Turns world after last where
  remains := left.remains.trans right.remains
  acts := left.acts.trans right.acts
  coherent := right.coherent ∘ left.coherent
  kept coherent _ _ _ _ kept := right.kept (left.coherent coherent) (left.kept coherent kept)

theorem Runs.turns {after : Character} {last : World} (runs : character.Runs world after last) :
    character.Turns world after last where
  remains := runs.remains
  acts := runs.acts
  coherent coherent := coherent.congr runs.sprite runs.gravity runs.effects
  kept _ _ _ _ _ kept := by
    rw [runs.sprite]
    exact kept.work runs.stage (runs.held kept.held)

variable (character world)

/-- **A character that disappears gives everything back.** -/
theorem turns_disappear :
    character.Turns world (character.disappear world).1 (character.disappear world).2 where
  remains := ⟨rfl, rfl⟩
  acts := character.acts_disappear world
  coherent _ := ⟨fun _ member => (nomatch member), fun _ => rfl⟩
  kept coherent _ _ _ _ kept := kept_disappear coherent kept

/-- A gravity that is started is held. -/
theorem turns_startGravity {sprite : SpriteId} (stands : character.sprite = some sprite)
    (rests : character.gravity = none) :
    character.Turns world (character.startGravity sprite world).1
      (character.startGravity sprite world).2 := by
  unfold startGravity
  dsimp only
  split
  · exact .refl
  · refine ⟨⟨rfl, rfl⟩, world.acts_registerMotion _, fun coherent => ⟨coherent.effects, ?_⟩, ?_⟩
    · exact fun offstage => nomatch offstage.symm.trans stands
    · intro coherent lost loose others owners kept
      have registered := kept.held.register (.gravity sprite character.spec.gravity 0) rfl
      refine kept.work (.refl _) (registered.perm ?_)
      unfold Character.holdings gravityHolding?
      rw [stands, rests]
      simp only [Option.toList_none, Option.toList_some, List.append_nil, List.append_assoc]
      exact List.perm_middle.symm

/-- A character with a sprite of its own and effects that are bound to it. -/
def dressed (character : Character) (sprite : SpriteId) (bindings : Bindings) : Character :=
  { character with sprite := some sprite, bindings }

theorem coherent_dressed {sprite : SpriteId} {world : World} {bound : Binder.Bound}
    (fresh : Binder.Fresh sprite world bound) :
    (character.dressed sprite bound.bindings).Coherent := by
  refine ⟨fun effect member other works => ?_, fun nowhere => nomatch nowhere⟩
  rw [(fresh.effects effect member).2 other works]
  rfl

/-- A character whose effects are new holds nothing yet. -/
theorem holdings_dressed {sprite : SpriteId} {world : World} {bound : Binder.Bound}
    (fresh : Binder.Fresh sprite world bound) (rests : character.gravity = none) :
    (character.dressed sprite bound.bindings).holdings = [] := by
  refine List.append_eq_nil_iff.mpr ⟨?_, ?_⟩
  · exact List.filterMap_eq_nil_iff.mpr fun effect member => (fresh.effects effect member).1
  · unfold gravityHolding? dressed
    rw [rests]
    rfl

/-- What a character does to the world before its effects run: it is bound to its new sprite. -/
theorem turns_dress {texture : Asset.Texture} {bound : Binder.Bound}
    (fresh : Binder.Fresh (world.createSprite (newSprite character.spec texture)).1
      (world.createSprite (newSprite character.spec texture)).2 bound)
    (offstage : character.sprite = none) (rests : character.gravity = none) :
    character.Turns world
      (character.dressed (world.createSprite (newSprite character.spec texture)).1 bound.bindings)
      bound.world where
  remains := ⟨rfl, rfl⟩
  acts := (world.acts_createSprite _).trans fresh.acts
  coherent _ := character.coherent_dressed fresh
  kept old _ _ _ _ kept := by
    rw [old.holdings offstage, offstage] at kept
    rw [character.holdings_dressed fresh rests]
    refine (kept.create (newSprite character.spec texture)).work fresh.stage ?_
    rw [fresh.animator, fresh.timers]
    exact kept.held

/-- What is shown of a character changes neither its place nor its effects. -/
theorem turns_show (sprite : SpriteId) (skipped : List SkippedEffect) :
    character.Turns world character
      (((world.reportAll (skipped.map (.effectSkipped character.name))).attachSprite sprite).report
        (.characterShown character.id character.name)) where
  remains := ⟨rfl, rfl⟩
  acts := by
    refine ((World.acts_reportAll world ?_).trans (World.acts_attachSprite _ _)).trans
      (World.acts_report _ trivial)
    intro event member
    obtain ⟨left, _, rfl⟩ := List.mem_map.mp member
    trivial
  coherent coherent := coherent
  kept _ _ _ _ _ kept := by
    rw [World.reportAll_eq]
    exact (kept.attach sprite).congr rfl rfl rfl

/-- Nor does it change the motions and the timers. -/
theorem still_show (sprite : SpriteId) (skipped : List SkippedEffect) :
    let shown := ((world.reportAll (skipped.map (.effectSkipped character.name))).attachSprite
      sprite).report (.characterShown character.id character.name)
    shown.animator = world.animator ∧ shown.timers = world.timers := by
  dsimp only
  rw [World.reportAll_eq]
  exact ⟨rfl, rfl⟩

/-- A character on the stage begins: its effects run, and its gravity starts. -/
theorem turns_begin {sprite : SpriteId} (stands : character.sprite = some sprite)
    (rests : character.gravity = none) :
    character.Turns world
      ((character.fireOnLoad world).1.startGravity sprite (character.fireOnLoad world).2).1
      ((character.fireOnLoad world).1.startGravity sprite (character.fireOnLoad world).2).2 := by
  have runs := character.runs_fireOnLoad world
  exact runs.turns.trans
    (turns_startGravity _ _ (runs.sprite.trans stands) (runs.gravity.trans rests))

/-- **A character that enters the stage owns a new sprite**, and holds all that it starts. -/
theorem turns_enterStage (binder : Binder) (texture : Asset.Texture)
    (offstage : character.sprite = none) (rests : character.gravity = none) :
    character.Turns world (character.enterStage binder texture world).1
      (character.enterStage binder texture world).2 := by
  let made := world.createSprite (newSprite character.spec texture)
  let bound := binder.bind character.spec made.1 made.2
  have fresh : Binder.Fresh made.1 made.2 bound := binder.fresh_bind _ _ _
  have dresses := character.turns_dress world fresh offstage rests
  have shows := dresses.trans (turns_show _ bound.world made.1 bound.skipped)
  exact shows.trans (turns_begin _ _ rfl rests)

/-- The first step of an appearance: a character that is on the stage leaves it. -/
def withdraw (character : Character) (world : World) : Character × World :=
  if character.sprite.isSome then character.disappear world else (character, world)

theorem turns_withdraw :
    character.Turns world (character.withdraw world).1 (character.withdraw world).2 := by
  unfold withdraw
  split
  · exact character.turns_disappear world
  · exact .refl

/-- What a character held is gone when it has left the stage, if it was there. -/
theorem held_withdraw {character : Character} {world : World} (coherent : character.Coherent)
    (held : Held loose (character.holdings ++ others) world.animator world.timers) :
    Held loose others (character.withdraw world).2.animator (character.withdraw world).2.timers := by
  unfold withdraw
  split
  · exact held_disappear coherent held
  · rename_i offstage
    rw [coherent.holdings (Option.not_isSome_iff_eq_none.mp offstage)] at held
    exact held

theorem sprite_withdraw : (character.withdraw world).1.sprite = none := by
  unfold withdraw
  split
  · rfl
  · rename_i offstage
    exact Option.not_isSome_iff_eq_none.mp offstage

theorem spec_withdraw : (character.withdraw world).1.spec = character.spec :=
  (character.turns_withdraw world).remains.spec

/-- A character that appears leaves the stage first, and enters it if its picture is loaded. -/
theorem appear_eq (binder : Binder) :
    character.appear binder world =
      match world.resources.texture? character.spec.image with
      | some texture =>
        (character.withdraw world).1.enterStage binder texture (character.withdraw world).2
      | none =>
        ((character.withdraw world).1, (character.withdraw world).2.remark .warn .character
          s!"{character.name}: image '{character.spec.image}' is not loaded, not shown") := by
  rw [← (character.turns_withdraw world).acts.resources]
  unfold name
  rw [← character.spec_withdraw world]
  rfl

/-- **A character that appears owns a new sprite, and holds all that it starts.** -/
theorem turns_appear {character : Character} (coherent : character.Coherent) (binder : Binder)
    (world : World) :
    character.Turns world (character.appear binder world).1 (character.appear binder world).2 := by
  have withdraws := character.turns_withdraw world
  have offstage := character.sprite_withdraw world
  rw [appear_eq]
  split
  · exact withdraws.trans (turns_enterStage _ _ binder _ offstage
      ((withdraws.coherent coherent).gravity offstage))
  · refine withdraws.trans ⟨⟨rfl, rfl⟩, World.acts_remark _ _ _ _, fun coherent => coherent, ?_⟩
    exact fun _ _ _ _ _ kept => kept.congr rfl rfl rfl

/-- The handles by which a character holds what it holds. -/
def ticks (character : Character) : List TickId :=
  character.holdings.map Holding.tick

/-- The handles that a character gives up when it leaves the stage may be kept as loose ones. -/
theorem kept_loosen {character : Character} {world : World} (coherent : character.Coherent)
    (kept : World.Kept lost loose (character.holdings ++ others)
      (character.sprite.toList ++ owners) world) :
    World.Kept lost (character.ticks.map (⟨·, none⟩) ++ loose)
      ((character.withdraw world).1.holdings ++ others)
      ((character.withdraw world).1.sprite.toList ++ owners) (character.withdraw world).2 := by
  have withdraws := character.turns_withdraw world
  have calm := withdraws.coherent coherent
  have left := withdraws.kept coherent kept
  have nothing := calm.holdings (character.sprite_withdraw world)
  have distinct := kept.held.distinct
  rw [List.map_append, List.nodup_append] at distinct
  refine left.work (.refl _) (left.held.loosen ?_ ?_ ?_)
  · refine List.nodup_append.mpr ⟨distinct.1, kept.held.single, fun tick held other listed same => ?_⟩
    obtain ⟨holding, inside, rfl⟩ := List.mem_map.mp held
    obtain ⟨handle, member, rfl⟩ := List.mem_map.mp listed
    exact kept.held.apart handle member holding (List.mem_append_left _ inside) same
  · intro tick held
    obtain ⟨holding, inside, rfl⟩ := List.mem_map.mp held
    exact Nat.le_trans (kept.held.issued holding (List.mem_append_left _ inside))
      withdraws.acts.motions
  · intro tick held other inside same
    rw [nothing] at inside
    exact distinct.2.2 tick held other.tick (List.mem_map_of_mem inside) same.symm

/-- A character that appears again may leave its old handles as loose ones. -/
theorem kept_reappear {character : Character} {world : World} (coherent : character.Coherent)
    (binder : Binder) (kept : World.Kept lost loose (character.holdings ++ others)
      (character.sprite.toList ++ owners) world) :
    World.Kept lost (character.ticks.map (⟨·, none⟩) ++ loose)
      ((character.appear binder world).1.holdings ++ others)
      ((character.appear binder world).1.sprite.toList ++ owners)
      (character.appear binder world).2 := by
  have left := kept_loosen coherent kept
  have offstage := character.sprite_withdraw world
  have calm := (character.turns_withdraw world).coherent coherent
  rw [appear_eq]
  split
  · exact (turns_enterStage _ _ binder _ offstage (calm.gravity offstage)).kept calm left
  · exact left.congr rfl rfl rfl

/-- The sprite that a character had is gone once it appears again. -/
theorem gone_appear {character : Character} (coherent : character.Coherent) (binder : Binder)
    {world : World} {sprite : SpriteId} (stands : character.sprite = some sprite)
    (given : sprite.number ≤ world.stage.issued) :
    (character.appear binder world).2.stage.Gone sprite := by
  have withdraws := character.turns_withdraw world
  have offstage := character.sprite_withdraw world
  have gone : (character.withdraw world).2.stage.Gone sprite := by
    have leaves : character.withdraw world = character.disappear world := by
      unfold withdraw
      rw [stands]
      rfl
    rw [leaves, stage_disappear, stands]
    exact ⟨fun present => (Stage.mem_keys_destroy.mp present).2 rfl, given⟩
  rw [appear_eq]
  split
  · have enters := turns_enterStage _ (character.withdraw world).2 binder ‹_› offstage
      ((withdraws.coherent coherent).gravity offstage)
    exact gone.follow enters.acts.stage
  · exact gone

end Character

end Storybook
