/-
**How a character comes onto the stage.**

A character that enters the stage has a new sprite. The sprite can be touched, and glows, exactly if a
chain for touches is bound, and the effects that are left out are reported, each for a reason that its
story or the assets give.

* `Binder.look`: how a sprite is for touches once the chains of its character are bound;
* `Binder.Dresses`, `Binder.dresses_bind`: what binding does to the looks, and what it leaves out;
* `Character.Arrives`, `Character.arrives_enterStage`: what comes onto the stage with a character;
* `Character.events_enterStage`: what is reported of it.
-/

import Storybook.Proofs.Abiding

namespace Storybook

namespace Binder

/-- The glow of a sprite that can be touched. -/
def glow (binder : Binder) : Glow :=
  ⟨binder.style.distance, binder.style.strength, binder.style.colour⟩

/-- **How a sprite is for touches** once the chains of its character are bound. -/
def look (binder : Binder) (bindings : Bindings) : Bool × Option Glow :=
  if bindings.touch.isSome then (true, some binder.glow) else (false, none)

theorem look_fst {binder : Binder} {bindings : Bindings} :
    (binder.look bindings).1 = true ↔ bindings.touch.isSome := by
  unfold look
  split <;> simp_all

theorem look_snd {binder : Binder} {bindings : Bindings} (touchable : (binder.look bindings).1 = true) :
    (binder.look bindings).2 = some binder.glow := by
  rw [look, if_pos (look_fst.mp touchable)]

/-- An effect of some of the actions cannot be used. -/
def Omits (resources : Asset.Resources) (offset : Single) (sprite : SpriteId)
    (actions : List (String × List Story.Effect)) (skipped : SkippedEffect) : Prop :=
  ∃ action ∈ actions, ∃ effect ∈ action.2, Effect.build resources offset sprite effect = .error skipped

/-- What the binding of actions to a sprite has come to. -/
structure Dresses (binder : Binder) (sprite : SpriteId)
    (actions : List (String × List Story.Effect)) (before : World) (bound : Bound) : Prop where
  resources : bound.world.resources = before.resources
  events : bound.world.events = before.events
  issued : bound.world.stage.issued = before.stage.issued
  others : ∀ other, other ≠ sprite → bound.world.stage.look? other = before.stage.look? other
  own : before.stage.look? sprite = some (false, none) →
    bound.world.stage.look? sprite = some (binder.look bound.bindings)
  omits : ∀ skipped ∈ bound.skipped, Omits before.resources binder.offset sprite actions skipped

variable {binder : Binder} {sprite : SpriteId} {actions : List (String × List Story.Effect)}
  {world : World} {bound : Bound}

theorem mem_unusable {built : List (Except SkippedEffect Effect)} {skipped : SkippedEffect} :
    skipped ∈ unusable built ↔ .error skipped ∈ built := by
  unfold unusable
  rw [List.mem_filterMap]
  constructor
  · rintro ⟨tried, member, left⟩
    cases tried with
    | ok effect => cases left
    | error other =>
      cases left
      exact member
  · exact fun member => ⟨_, member, rfl⟩

theorem Dresses.bindAction (dresses : binder.Dresses sprite actions world bound) (name : String)
    {action : String × List Story.Effect} (listed : action ∈ actions) :
    binder.Dresses sprite actions world (binder.bindAction name sprite bound action) := by
  unfold Binder.bindAction
  split
  case h_1 => exact { dresses with }
  case h_2 trigger _ =>
    -- The world in which the chain is bound differs by remarks only.
    obtain ⟨remarks, same⟩ := foldl_remarkSkipped name trigger
      (unusable (action.2.map (Effect.build bound.world.resources binder.offset sprite)))
      bound.world
    have omits : ∀ skipped ∈ bound.skipped ++
        unusable (action.2.map (Effect.build bound.world.resources binder.offset sprite)),
          Omits world.resources binder.offset sprite actions skipped := by
      refine List.forall_mem_append.mpr ⟨dresses.omits, fun skipped member => ?_⟩
      obtain ⟨effect, inside, failed⟩ := List.mem_map.mp (mem_unusable.mp member)
      rw [dresses.resources] at failed
      exact ⟨action, listed, effect, inside, failed⟩
    dsimp only
    rw [same]
    cases trigger with
    | onLoad => exact { dresses with omits }
    | touch =>
      refine { dresses with omits, others := fun other different => ?_, own := ?_ }
      · exact (Stage.look?_modify_of_ne different).trans (dresses.others other different)
      · exact fun plain => Stage.look?_modify_self (dresses.own plain) fun _ => rfl

/-- **What binding does**: it leaves the other sprites alone, and its own can be touched exactly if
there is a chain for touches. -/
theorem dresses_bind (binder : Binder) (character : Story.Character) (sprite : SpriteId)
    (world : World) :
    binder.Dresses sprite character.actions world (binder.bind character sprite world) := by
  have begun : binder.Dresses sprite character.actions world ⟨.none, [], world⟩ :=
    ⟨rfl, rfl, rfl, fun _ _ => rfl, id, fun _ member => nomatch member⟩
  exact List.foldlRecOn character.actions (binder.bindAction character.name sprite) begun
    fun _ dresses _ listed => dresses.bindAction character.name listed

end Binder

namespace Character

/-- The sprite that a character comes with cannot be touched yet. -/
theorem look_newSprite (spec : Story.Character) (texture : Asset.Texture) :
    (newSprite spec texture).look = (false, none) := by
  unfold newSprite
  dsimp only
  split <;> rfl

/-- An event that tells, if it tells of an effect that is left out, of one of a character that cannot be
used. -/
def TellsOmission (character : Character) (binder : Binder) (before : World) (event : Event) : Prop :=
  ∀ name skipped, event = .effectSkipped name skipped → name = character.name ∧
    Binder.Omits before.resources binder.offset ⟨before.stage.issued + 1⟩ character.spec.actions
      skipped

/-- **What comes onto the stage with a character**: one sprite, which is the character's, and of the
effects of the character those are left out that cannot be used. -/
structure Arrives (binder : Binder) (character : Character) (before : World) (after : Character)
    (world : World) : Prop where
  spec : after.spec = character.spec
  sprite : after.sprite = some ⟨before.stage.issued + 1⟩
  resources : world.resources = before.resources
  issued : world.stage.issued = before.stage.issued + 1
  others : ∀ id look, id ≠ ⟨before.stage.issued + 1⟩ → world.stage.look? id = some look →
    before.stage.look? id = some look
  own : before.stage.look? ⟨before.stage.issued + 1⟩ = none → ∀ look,
    world.stage.look? ⟨before.stage.issued + 1⟩ = some look → look = binder.look after.bindings
  events : World.Reports (character.TellsOmission binder before) before world

/-- What is shown of a character leaves the looks of the sprites, and tells which effects are left
out. -/
theorem tells_show (character : Character) (sprite : SpriteId) {p : Event → Prop}
    (skipped : List SkippedEffect) (world : World)
    (omits : ∀ left ∈ skipped, p (.effectSkipped character.name left))
    (arrives : p (.characterShown character.id character.name)) :
    let shown := ((world.reportAll (skipped.map (.effectSkipped character.name))).attachSprite
      sprite).report (.characterShown character.id character.name)
    shown.resources = world.resources ∧ world.stage.Wears shown.stage ∧
      World.Reports p world shown := by
  intro shown
  let told := world.reportAll (skipped.map (.effectSkipped character.name))
  have same : told = { world with events := told.events } := world.reportAll_eq _
  have stage : told.stage = world.stage := by rw [same]
  have resources : told.resources = world.resources := by rw [same]
  have drawn := told.abides_attachSprite sprite
  refine ⟨drawn.resources.trans resources, stage ▸ drawn.stage, ?_⟩
  exact (world.reports_reportAll _ (List.forall_mem_map.mpr omits)).trans
    (World.reports_report _ arrives)

/-- Effects that run when a character appears leave its chain for touches. -/
theorem touch_fireOnLoad (character : Character) (world : World) :
    (character.fireOnLoad world).1.bindings.touch = character.bindings.touch := by
  unfold fireOnLoad
  split <;> rfl

/-- A character is the same, but for its gravity, when that is started. -/
theorem startGravity_fst (character : Character) (sprite : SpriteId) (world : World) :
    ∃ gravity, (character.startGravity sprite world).1 = { character with gravity } := by
  unfold startGravity
  dsimp only
  split
  · exact ⟨character.gravity, rfl⟩
  · exact ⟨_, rfl⟩

theorem arrives_enterStage (character : Character) (binder : Binder) (texture : Asset.Texture)
    (world : World) : character.Arrives binder world (character.enterStage binder texture world).1
      (character.enterStage binder texture world).2 := by
  let made := world.createSprite (newSprite character.spec texture)
  let bound := binder.bind character.spec made.1 made.2
  let shown := ((bound.world.reportAll (bound.skipped.map (.effectSkipped character.name))).attachSprite
    made.1).report (.characterShown character.id character.name)
  let fired := (character.dressed made.1 bound.bindings).fireOnLoad shown
  let falls := fired.1.startGravity made.1 fired.2
  have dresses : binder.Dresses made.1 character.spec.actions made.2 bound :=
    binder.dresses_bind character.spec made.1 made.2
  obtain ⟨resources, shows, told⟩ : shown.resources = bound.world.resources ∧
      bound.world.stage.Wears shown.stage ∧
      World.Reports (character.TellsOmission binder world) bound.world shown := by
    refine character.tells_show made.1 bound.skipped bound.world ?_ nofun
    rintro left member name skipped ⟨⟩
    exact ⟨rfl, dresses.omits left member⟩
  -- What follows leaves the looks alone, and tells of no omission.
  have later : shown.Abides falls.2 := (abides_fireOnLoad _ shown).trans (abides_startGravity _ _ _)
  have wears : bound.world.stage.Wears falls.2.stage := shows.trans later.stage
  have silent : World.Reports (character.TellsOmission binder world) shown falls.2 := by
    refine later.events.imp fun event quiet name skipped omission => ?_
    rw [omission] at quiet
    cases quiet
  have fires := (character.dressed made.1 bound.bindings).runs_fireOnLoad shown
  obtain ⟨gravity, same⟩ := startGravity_fst fired.1 made.1 fired.2
  show character.Arrives binder world falls.1 falls.2
  rw [show falls.1 = _ from same]
  refine ⟨fires.remains.spec, fires.sprite, ?_, ?_, fun id look other worn => ?_,
    fun new look worn => ?_, ?_⟩
  · exact later.resources.trans (resources.trans dresses.resources)
  · exact wears.issued.trans dresses.issued
  · have before := wears.looks id look worn
    rw [dresses.others id other] at before
    exact (world.stage.look?_create_of_ne _ other).symm.trans before
  · have plain : made.2.stage.look? made.1 = some (newSprite character.spec texture).look :=
      Stage.look?_create_self _ new
    rw [look_newSprite] at plain
    have before := (wears.looks _ look worn).symm.trans (dresses.own plain)
    rw [Option.some.inj before, Binder.look, Binder.look, touch_fireOnLoad]
    rfl
  · have bare : World.Reports (character.TellsOmission binder world) world bound.world :=
      .of_eq dresses.events
    exact (bare.trans told).trans silent

/-- **What is reported when a character enters the stage**: which of its effects are left out, that it has
come, and nothing else of the kind. -/
theorem events_enterStage (character : Character) (binder : Binder) (texture : Asset.Texture)
    (world : World) :
    let made := world.createSprite (newSprite character.spec texture)
    ∃ quiet, (character.enterStage binder texture world).2.events.toList = world.events.toList ++
      ((binder.bind character.spec made.1 made.2).skipped.map (.effectSkipped character.name) ++
        .characterShown character.id character.name :: quiet) ∧
      ∀ event ∈ quiet, event.isArrival = false := by
  intro made
  let bound := binder.bind character.spec made.1 made.2
  let told := bound.world.reportAll (bound.skipped.map (.effectSkipped character.name))
  let shown := (told.attachSprite made.1).report (.characterShown character.id character.name)
  let fired := (character.dressed made.1 bound.bindings).fireOnLoad shown
  have later : shown.Abides (fired.1.startGravity made.1 fired.2).2 :=
    (abides_fireOnLoad _ shown).trans (abides_startGravity _ _ _)
  obtain ⟨quiet, added, silent⟩ := later.events
  have bare : bound.world.events = world.events := (binder.dresses_bind character.spec made.1 made.2).events
  have comes : shown.events.toList =
      told.events.toList ++ [.characterShown character.id character.name] := Array.toList_push
  refine ⟨quiet, added.trans ?_, silent⟩
  rw [comes, World.toList_reportAll, bare, List.append_assoc, List.append_assoc]
  rfl

end Character

end Storybook
