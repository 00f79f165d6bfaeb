/-
**A bad effect costs only its own place.**

The actions of a character may hold any values. Of the values of an action that is looked at, those that make
sense and whose picture or sound is loaded become the chain of its trigger, in order; each of the others is
left out, alone, and reported under the name that it declares.

* `Value.isUsable`: whether an effect can be made of a value;
* `Effect.build_value`: what is made of it;
* `Binder.Takes`, `Binder.takes_bind`: the chains of some actions and what is left out of them;
* `Character.omissions_appear`: what is reported when a character appears;
* `Character.bad_effects_cost_their_places`: all of this, for all actions that hold any values.
-/

import Storybook.Proofs.Arrivals
import Storybook.Proofs.Values

namespace Storybook

open Storybook.Data

/-! ### Values that can be used -/

/-- Whether the picture or the sound that an effect needs is loaded. -/
def Story.Effect.isLoaded (resources : Asset.Resources) : Story.Effect → Bool
  | audio sound => (resources.sound? sound).isSome
  | transition image => (resources.texture? image).isSome
  | _ => true

namespace Data.Value

/-- **Whether an effect can be made of a value**: it makes sense, and what it needs is loaded. -/
def isUsable (resources : Asset.Resources) (value : Value) : Bool :=
  match Story.Effect.decode value.node with
  | .ok effect => effect.isLoaded resources
  | .error _ => false

/-- The values of an action of which effects can be made, in order. -/
def used (resources : Asset.Resources) (values : List Value) : List Value :=
  values.filter (isUsable resources)

/-- The other values of an action, in order. -/
def omitted (resources : Asset.Resources) (values : List Value) : List Value :=
  values.filter fun value => !value.isUsable resources

/-- The names of the values that are left out of some actions, in the order of the keys and then of the
places. Actions under keys of no trigger are not looked at. -/
def leftOut (resources : Asset.Resources) (actions : Table (List Value)) : List String :=
  actions.flatMap fun action =>
    if (Trigger.ofKey? action.1).isSome then (omitted resources action.2).map name else []

end Data.Value

/-! ### Effects that are built -/

namespace Effect

/-- Whether an effect is in the state in which it begins. -/
def isIdle : Effect → Bool
  | move _ _ _ state => state = .idle
  | fadeOut _ _ state => state = .idle
  | spin _ _ state => state = .idle
  | _ => true

variable {resources : Asset.Resources} {offset : Single} {sprite : SpriteId} {spec : Story.Effect}

/-- An effect that makes sense is built if what it needs is loaded. -/
theorem build_ok (resolved : spec.isResolved) (loaded : spec.isLoaded resources) :
    ∃ effect, build resources offset sprite spec = .ok effect ∧ effect.kind.name = spec.name ∧
      effect.isIdle := by
  cases spec with
  | audio sound =>
    obtain ⟨clip, found⟩ := Option.isSome_iff_exists.mp loaded
    refine ⟨.audio sound, ?_, rfl, rfl⟩
    simp only [build, found]
    rfl
  | transition image =>
    obtain ⟨texture, found⟩ := Option.isSome_iff_exists.mp loaded
    refine ⟨.transition sprite image texture, ?_, rfl, rfl⟩
    simp only [build, found]
    rfl
  | unresolved name fault => cases resolved
  | _ => exact ⟨_, rfl, rfl, rfl⟩

/-- All others are left out, under their names. -/
theorem build_error (bad : spec.isResolved = false ∨ spec.isLoaded resources = false) :
    ∃ skipped, build resources offset sprite spec = .error skipped ∧ skipped.name = spec.name := by
  cases spec with
  | audio sound =>
    rcases bad with bad | missing
    · cases bad
    · have absent := Option.isNone_iff_eq_none.mp (Option.isSome_eq_false_iff.mp missing)
      refine ⟨⟨_, .noSound sound⟩, ?_, rfl⟩
      simp only [build, absent]
      rfl
  | transition image =>
    rcases bad with bad | missing
    · cases bad
    · have absent := Option.isNone_iff_eq_none.mp (Option.isSome_eq_false_iff.mp missing)
      refine ⟨⟨_, .noImage image⟩, ?_, rfl⟩
      simp only [build, absent]
      rfl
  | unresolved name fault => exact ⟨_, rfl, rfl⟩
  | _ => rcases bad with bad | bad <;> cases bad

/-- **What is made of any value**: an effect of its name in its first state, if the value can be used, and
otherwise nothing but its name. -/
theorem build_value (resources : Asset.Resources) (offset : Single) (sprite : SpriteId) (value : Value) :
    (value.isUsable resources = true ∧
      ∃ effect, build resources offset sprite value.effect = .ok effect ∧ effect.kind.name = value.name ∧
        effect.isIdle) ∨
    (value.isUsable resources = false ∧
      ∃ skipped, build resources offset sprite value.effect = .error skipped ∧
        skipped.name = value.name) := by
  have named := value.name_effect
  rw [← named]
  unfold Value.isUsable Value.effect Story.Effect.ofNode
  cases read : Story.Effect.decode value.node with
  | ok spec =>
    have resolved := (Story.Effect.decode_ok read).2
    cases loaded : spec.isLoaded resources with
    | true => exact Or.inl ⟨loaded, build_ok resolved loaded⟩
    | false => exact Or.inr ⟨loaded, build_error (Or.inr loaded)⟩
  | error fault => exact Or.inr ⟨rfl, _, rfl, rfl⟩

end Effect

/-! ### Binding -/

/-- The chain of a trigger. -/
def Bindings.chain? (bindings : Bindings) : Trigger → Option Chain
  | .onLoad => bindings.onLoad
  | .touch => bindings.touch

theorem Bindings.chain?_set (bindings : Bindings) (chain : Chain) (trigger : Trigger) :
    (bindings.set chain).chain? trigger =
      if trigger = chain.trigger then some chain else bindings.chain? trigger := by
  obtain ⟨bound, effects⟩ := chain
  cases bound <;> cases trigger <;> rfl

theorem Trigger.ofKey?_eq_some {key : String} {trigger : Trigger} :
    Trigger.ofKey? key = some trigger ↔ key = trigger.key := by
  constructor
  · intro found
    unfold Trigger.ofKey? at found
    split at found <;> cases found <;> rfl
  · rintro rfl
    cases trigger <;> rfl

namespace Binder

variable {binder : Binder} {sprite : SpriteId} {actions : Table (List Story.Effect)} {bound : Bound}
  {world : World}

/-- The effects of an action, as far as they can be built for a sprite. -/
def builds (binder : Binder) (resources : Asset.Resources) (sprite : SpriteId)
    (effects : List Story.Effect) : List (Except SkippedEffect Effect) :=
  effects.map (Effect.build resources binder.offset sprite)

/-- What is left out of an action: nothing, if it is not looked at. -/
def leaves (binder : Binder) (resources : Asset.Resources) (sprite : SpriteId)
    (action : String × List Story.Effect) : List SkippedEffect :=
  if (Trigger.ofKey? action.1).isSome then unusable (binder.builds resources sprite action.2) else []

/-- **What the binding of some actions has come to**: there is one chain for each action that is looked at,
with all of its effects that can be used. -/
structure Takes (binder : Binder) (resources : Asset.Resources) (sprite : SpriteId)
    (actions : Table (List Story.Effect)) (bound : Bound) : Prop where
  assets : bound.world.resources = resources
  chains : ∀ trigger, bound.bindings.chain? trigger =
    (actions.find? trigger.key).map fun effects => ⟨trigger, usable (binder.builds resources sprite effects)⟩
  skipped : bound.skipped = actions.flatMap (binder.leaves resources sprite)

/-- One more action. -/
theorem Takes.bindAction {resources : Asset.Resources} (takes : binder.Takes resources sprite actions bound)
    (name : String) {action : String × List Story.Effect} (new : action.1 ∉ actions.keys) :
    binder.Takes resources sprite (actions ++ [action]) (binder.bindAction name sprite bound action) := by
  obtain ⟨key, effects⟩ := action
  have absent : actions.find? key = none := Table.find?_eq_none new
  have found (trigger : Trigger) : Table.find? (actions ++ [(key, effects)]) trigger.key =
      if trigger.key = key then some effects else actions.find? trigger.key := by
    rw [Table.find?_append, Table.find?_cons]
    split
    · rename_i same
      rw [same, absent]
      rfl
    · exact Option.or_none
  unfold Binder.bindAction
  split
  case h_1 unknown =>
    refine ⟨takes.assets, fun trigger => ?_, ?_⟩
    · have different : trigger.key ≠ key := fun same => by
        cases unknown.symm.trans (Trigger.ofKey?_eq_some.mpr same.symm)
      rw [found, if_neg different]
      exact takes.chains trigger
    · have nothing : binder.leaves resources sprite (key, effects) = [] := by
        rw [leaves, unknown]
        rfl
      rw [List.flatMap_append, List.flatMap_singleton, nothing, List.append_nil]
      exact takes.skipped
  case h_2 own known =>
    have same : key = own.key := Trigger.ofKey?_eq_some.mp known
    obtain ⟨remarks, told⟩ := foldl_remarkSkipped name own
      (unusable (effects.map (Effect.build bound.world.resources binder.offset sprite))) bound.world
    dsimp only
    rw [told, takes.assets]
    refine ⟨?_, fun trigger => ?_, ?_⟩
    · dsimp only
      split <;> rfl
    · have keys : trigger.key = key ↔ trigger = own := by
        rw [same]
        cases trigger <;> cases own <;> simp [Trigger.key]
      rw [Bindings.chain?_set, found]
      by_cases mine : trigger = own
      · subst mine
        rw [if_pos rfl, if_pos (keys.mpr rfl)]
        rfl
      · rw [if_neg mine, if_neg (mt keys.mp mine)]
        exact takes.chains trigger
    · have left : binder.leaves resources sprite (key, effects) =
          unusable (binder.builds resources sprite effects) := by
        rw [leaves, known]
        rfl
      rw [List.flatMap_append, List.flatMap_singleton, left, ← takes.skipped]
      rfl

/-- **What binding comes to**, one action after the other. -/
theorem takes_bind (binder : Binder) (spec : Story.Character) (sorted : spec.actions.Sorted)
    (sprite : SpriteId) (world : World) :
    binder.Takes world.resources sprite spec.actions (binder.bind spec sprite world) := by
  have all : ∀ (rest done : Table (List Story.Effect)) (bound : Bound),
      binder.Takes world.resources sprite done bound → Table.Sorted (done ++ rest) →
        binder.Takes world.resources sprite (done ++ rest)
          (rest.foldl (binder.bindAction spec.name sprite) bound) := by
    intro rest
    induction rest with
    | nil =>
      intro done bound takes _
      rw [List.append_nil]
      exact takes
    | cons action rest ih =>
      intro done bound takes sorted
      have new : action.1 ∉ Table.keys done := fun old => by
        rw [Table.Sorted, Table.keys_append, List.pairwise_append] at sorted
        exact String.lt_irrefl _ (sorted.2.2 action.1 old action.1 List.mem_cons_self)
      rw [List.append_cons] at sorted ⊢
      exact ih _ _ (takes.bindAction spec.name new) sorted
  exact all spec.actions [] ⟨.none, [], world⟩ ⟨rfl, fun trigger => by cases trigger <;> rfl, rfl⟩ sorted

/-! ### Binding values -/

section Values

variable {resources : Asset.Resources} (binder : Binder) (sprite : SpriteId) (values : List Value)

/-- **The values that can be used become effects in order**, under their names. -/
theorem usable_builds :
    (usable (binder.builds resources sprite (values.map Value.effect))).map (·.kind.name) =
        (Value.used resources values).map Value.name ∧
      ∀ effect ∈ usable (binder.builds resources sprite (values.map Value.effect)), effect.isIdle := by
  induction values with
  | nil => exact ⟨rfl, List.forall_mem_nil _⟩
  | cons value rest ih =>
    obtain ⟨names, idle⟩ := ih
    unfold Value.used builds at names ⊢
    unfold builds at idle
    rw [List.map_cons, List.map_cons]
    rcases Effect.build_value resources binder.offset sprite value with
      ⟨can, effect, built, named, new⟩ | ⟨cannot, skipped, left, _⟩
    · rw [built, List.filter_cons_of_pos can, List.map_cons, ← named, ← names]
      exact ⟨rfl, List.forall_mem_cons.mpr ⟨new, idle⟩⟩
    · rw [left, List.filter_cons_of_neg (ne_true_of_eq_false cannot)]
      exact ⟨names, idle⟩

/-- **The others are left out**, under their names too. -/
theorem unusable_builds :
    (unusable (binder.builds resources sprite (values.map Value.effect))).map SkippedEffect.name =
      (Value.omitted resources values).map Value.name := by
  induction values with
  | nil => rfl
  | cons value rest ih =>
    unfold Value.omitted builds at ih ⊢
    rw [List.map_cons, List.map_cons]
    rcases Effect.build_value resources binder.offset sprite value with
      ⟨can, effect, built, _⟩ | ⟨cannot, skipped, left, named⟩
    · rw [built, List.filter_cons_of_neg (by simp [can])]
      exact ih
    · rw [left, List.filter_cons_of_pos (by simp [cannot]), List.map_cons, ← named, ← ih]
      rfl

end Values

/-- **What an action that holds some values comes to**: a chain of the effects that can be made of them, in
order, under their names, all of them of the given sprite and in their first states. -/
structure Serves (resources : Asset.Resources) (sprite : SpriteId) (trigger : Trigger)
    (values : List Value) (chain : Chain) : Prop where
  trigger : chain.trigger = trigger
  kinds : chain.kinds.map EffectKind.name = (Value.used resources values).map Value.name
  count : chain.effects.length + (Value.omitted resources values).length = values.length
  targets : ∀ effect ∈ chain.effects, ∀ target ∈ effect.sprite?, target = sprite
  idle : ∀ effect ∈ chain.effects, effect.isIdle

/-- **What actions that hold any values come to**: a chain for each trigger that has an action, none for the
others, and of the rest the names. -/
structure Sifts (resources : Asset.Resources) (sprite : SpriteId) (actions : Table (List Value))
    (bound : Bound) : Prop where
  chains : ∀ trigger values, actions.find? trigger.key = some values →
    ∃ chain, bound.bindings.chain? trigger = some chain ∧ Serves resources sprite trigger values chain
  others : ∀ trigger, actions.find? trigger.key = none → bound.bindings.chain? trigger = none
  skipped : bound.skipped.map SkippedEffect.name = Value.leftOut resources actions

theorem serves_usable (binder : Binder) (resources : Asset.Resources) (sprite : SpriteId)
    (trigger : Trigger) (values : List Value) :
    Serves resources sprite trigger values
      ⟨trigger, usable (binder.builds resources sprite (values.map Value.effect))⟩ := by
  obtain ⟨names, idle⟩ := binder.usable_builds sprite values
  refine ⟨rfl, ?_, ?_, fun effect member => ?_, idle⟩
  · unfold Chain.kinds
    rw [List.map_map]
    exact names
  · have length := congrArg List.length names
    rw [List.length_map, List.length_map] at length
    rw [length]
    unfold Value.used Value.omitted
    have parts := List.length_eq_length_filter_add (l := values) (Value.isUsable resources)
    exact parts.symm
  · obtain ⟨spec, _, built⟩ := List.mem_map.mp (mem_usable.mp member)
    exact (Effect.new_of_build built).2

/-- **The binding of actions that hold any values.** -/
theorem sifts_bind (binder : Binder) {actions : Table (List Value)} (sorted : actions.Sorted)
    {spec : Story.Character} (holds : spec.actions = Value.effects actions) (sprite : SpriteId)
    (world : World) : Sifts world.resources sprite actions (binder.bind spec sprite world) := by
  have sorted' : spec.actions.Sorted := by
    rw [holds, Table.Sorted, Value.effects, Table.keys_map fun values => List.map Value.effect values]
    exact sorted
  have takes := binder.takes_bind spec sorted' sprite world
  have found (trigger : Trigger) : spec.actions.find? trigger.key =
      (actions.find? trigger.key).map fun values => values.map Value.effect := by
    rw [holds]
    exact Table.find?_map fun values => List.map Value.effect values
  refine ⟨fun trigger values there => ?_, fun trigger absent => ?_, ?_⟩
  · refine ⟨_, ?_, binder.serves_usable world.resources sprite trigger values⟩
    rw [takes.chains, found, there]
    rfl
  · rw [takes.chains, found, absent]
    rfl
  · rw [takes.skipped, holds, List.map_flatMap, Value.effects, List.flatMap_map]
    refine congrArg (List.flatMap · actions) (funext fun action => ?_)
    unfold leaves
    dsimp only
    split
    · exact binder.unusable_builds sprite action.2
    · rfl

end Binder

/-! ### What is reported -/

/-- An event that tells of an effect that is left out: of which character, and under which name. -/
def Event.omission? : Event → Option (String × String)
  | .effectSkipped character effect => some (character, effect.name)
  | _ => none

theorem Event.omission?_eq_none {event : Event} (quiet : event.isArrival = false) :
    event.omission? = none := by
  cases event <;> first | rfl | cases quiet

/-- The effects that were left out so far, in order. -/
def World.omissions (world : World) : List (String × String) :=
  world.events.toList.filterMap Event.omission?

/-- Where nothing comes onto the stage, nothing is left out. -/
theorem World.omissions_of_reports {before after : World}
    (reports : Reports (fun event => event.isArrival = false) before after) :
    after.omissions = before.omissions := by
  obtain ⟨new, added, quiet⟩ := reports
  have none : new.filterMap Event.omission? = [] :=
    List.filterMap_eq_nil_iff.mpr fun event member => Event.omission?_eq_none (quiet event member)
  unfold omissions
  rw [added, List.filterMap_append, none, List.append_nil]

namespace Character

/-- **A character that enters the stage reports what is left out of its chains**, and nothing else of the
kind. -/
theorem omissions_enterStage (character : Character) (binder : Binder) (texture : Asset.Texture)
    (world : World) :
    let made := world.createSprite (newSprite character.spec texture)
    (character.enterStage binder texture world).2.omissions = world.omissions ++
      (binder.bind character.spec made.1 made.2).skipped.map fun skipped =>
        (character.name, skipped.name) := by
  intro made
  obtain ⟨quiet, told, silent⟩ := character.events_enterStage binder texture world
  have none : quiet.filterMap Event.omission? = [] :=
    List.filterMap_eq_nil_iff.mpr fun event member => Event.omission?_eq_none (silent event member)
  have each : Event.omission? ∘ Event.effectSkipped character.name =
      some ∘ fun skipped => (character.name, skipped.name) := rfl
  unfold World.omissions
  rw [told, List.filterMap_append, List.filterMap_append, List.filterMap_map, each, List.filterMap_eq_map,
    List.filterMap_cons_none rfl, none, List.append_nil]

/-- **A character whose actions hold any values reports those that are left out**, whenever it appears. -/
theorem omissions_appear (character : Character) (binder : Binder) {world : World}
    {actions : Table (List Value)} (sorted : actions.Sorted)
    (holds : character.spec.actions = Value.effects actions)
    (loaded : (world.resources.texture? character.spec.image).isSome) :
    (character.appear binder world).2.omissions = world.omissions ++
      (Value.leftOut world.resources actions).map fun name => (character.name, name) := by
  have withdraws := character.turns_withdraw world
  have same := withdraws.remains.spec
  have left := World.omissions_of_reports (character.abides_withdraw world).events
  obtain ⟨texture, found⟩ := Option.isSome_iff_exists.mp loaded
  let made := (character.withdraw world).2.createSprite (newSprite (character.withdraw world).1.spec texture)
  have sifts := binder.sifts_bind sorted ((congrArg Story.Character.actions same).trans holds) made.1 made.2
  have assets : made.2.resources = world.resources := withdraws.acts.resources
  have names := sifts.skipped
  rw [assets] at names
  rw [appear_eq, found]
  refine ((character.withdraw world).1.omissions_enterStage binder texture _).trans ?_
  have named : (character.withdraw world).1.name = character.name := congrArg Story.Character.name same
  rw [left, named, ← names, List.map_map]
  rfl

/-- **A bad effect costs only its own place.** Actions that hold any values at all are read, each value as one
effect. Bound to a sprite, with whatever assets, each action that is looked at comes to a chain of the effects
that can be made of its values, in order; the values of which none can be made are left out, in the order of
the keys and then of the places, and they are what is reported when the character appears, each under the
name that it declares. -/
theorem bad_effects_cost_their_places (actions : Table (List Value)) (sorted : actions.Sorted) :
    Decode.table Story.Effect.inAction (Value.actionsNode actions) = .ok (Value.effects actions) ∧
      ∀ (character : Character) (binder : Binder) (world : World),
        character.spec.actions = Value.effects actions →
          (∀ sprite, Binder.Sifts world.resources sprite actions
            (binder.bind character.spec sprite world)) ∧
          ((world.resources.texture? character.spec.image).isSome →
            (character.appear binder world).2.omissions = world.omissions ++
              (Value.leftOut world.resources actions).map fun name => (character.name, name)) :=
  ⟨Value.decode_actionsNode sorted, fun character binder world holds =>
    ⟨fun sprite => binder.sifts_bind sorted holds sprite world, character.omissions_appear binder sorted holds⟩⟩

/-- Actions with good and bad values: a sound that is only a picture, no effect at all, an unknown name, and
a picture that is missing. Nothing is done when the pointer hovers. -/
def attic : Table (List Value) :=
  [("hover", [⟨.ofMembers [("name", .text "spin")], rfl⟩]),
   ("onload",
    [⟨.ofItems [.text "audio", .text "cat.png"], rfl⟩,
     ⟨.ofMembers [("name", .text "fade_out"), ("speed", .natural 1)], rfl⟩, ⟨.text "jump", rfl⟩]),
   ("touch",
    [⟨.ofMembers [("name", .text "dance")], rfl⟩, ⟨.ofMembers [("name", .text "spin")], rfl⟩,
     ⟨.ofMembers [("image", .null), ("name", .text "transition")], rfl⟩])]

/-- A cat with these actions. -/
def atticCat : Story.Character :=
  ⟨"Cat", "cat.png", ⟨10, 20⟩, none, Value.effects attic⟩

/-- A world in which its picture is loaded. -/
def atticWorld : World :=
  .initial ⟨800, 600⟩ ⟨[("cat.png", .texture ⟨64, 64⟩)]⟩ (.silent 3000000000 [])

/-- When the cat appears, each bad value is reported under its name. -/
theorem attic_costs_places : attic.Sorted ∧
    Decode.table Story.Effect.inAction (Value.actionsNode attic) = .ok (Value.effects attic) ∧
      Binder.Sifts atticWorld.resources ⟨1⟩ attic
        ((⟨100, .standard⟩ : Binder).bind atticCat ⟨1⟩ atticWorld) ∧
        ((ofSpec ⟨0⟩ atticCat).appear ⟨100, .standard⟩ atticWorld).2.omissions =
          [("Cat", "audio"), ("Cat", ""), ("Cat", "dance"), ("Cat", "transition")] := by
  have sorted : attic.Sorted := by
    unfold Table.Sorted
    decide +kernel
  obtain ⟨decoded, costs⟩ := bad_effects_cost_their_places attic sorted
  obtain ⟨sifts, reports⟩ := costs (ofSpec ⟨0⟩ atticCat) ⟨100, .standard⟩ atticWorld rfl
  have left : Value.leftOut atticWorld.resources attic = ["audio", "", "dance", "transition"] := by
    decide +kernel
  refine ⟨sorted, decoded, sifts ⟨1⟩, ?_⟩
  rw [reports rfl, left]
  rfl

/-- An action with a list that makes sense, but whose sound is only a picture. -/
def hayloft : Table (List Value) :=
  [("onload", [⟨.ofItems [.text "audio", .text "cat.png"], rfl⟩])]

/-- **A value without a member `name` may have a name all the same**: a list may make sense, and what is left
out of it then is reported under its first item. -/
theorem not_named_by_member_alone :
    ¬ ∀ (actions : Table (List Value)) (spec : Story.Character) (binder : Binder) (sprite : SpriteId)
      (world : World), actions.Sorted → spec.actions = Value.effects actions →
        (binder.bind spec sprite world).skipped.map SkippedEffect.name = actions.flatMap fun action =>
          if (Trigger.ofKey? action.1).isSome then
            (Value.omitted world.resources action.2).map fun value =>
              Story.Effect.writtenName value.node
          else [] := by
  intro all
  have sorted : hayloft.Sorted := List.pairwise_singleton _ _
  have names := all hayloft { atticCat with actions := Value.effects hayloft } ⟨100, .standard⟩ ⟨1⟩
    atticWorld sorted rfl
  have named : (["audio"] : List String) = [""] := names
  simp at named

end Character

end Storybook
