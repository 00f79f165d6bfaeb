/-
**The fades of a character.**

A character that is touched has as many fades that have come to their end as before. One that appears,
for the first time or again, has none: its effects are new, and what runs at once only begins.

* `Character.faded`, `Character.fades`: how many fades of a character have come to their end, and how many
  it has;
* `Story.Character.fades`: how many its story gives it;
* `Character.Tallies`: what becomes of the fades while one character does something;
* `Character.tallies_touch`, `Character.tallies_appear`: what is done with a character.
-/

import Storybook.Proofs.Arrivals
import Storybook.Proofs.Fading.Effects

namespace Storybook

/-! ### The fades of a story -/

/-- An effect of a story is a fade. -/
def Story.Effect.isFade : Story.Effect → Bool
  | .fadeOut _ => true
  | _ => false

/-- The effects of an action, if its key is the one of a trigger. -/
def Story.triggered (action : String × List Story.Effect) : List Story.Effect :=
  match Trigger.ofKey? action.1 with
  | some _ => action.2
  | none => []

/-- **How many fades a story gives a character.** -/
def Story.Character.fades (character : Story.Character) : Nat :=
  (character.actions.flatMap triggered).countP Effect.isFade

/-! ### Binding -/

/-- How many effects of bindings are fades. -/
def Bindings.fades (bindings : Bindings) : Nat :=
  bindings.effects.countP Effect.isFade

theorem Bindings.fades_set (bindings : Bindings) (chain : Chain) :
    (bindings.set chain).fades ≤ bindings.fades + chain.effects.countP Effect.isFade := by
  unfold fades effects set
  cases chain.trigger with
  | onLoad =>
    simp only [effectsOf, List.countP_append]
    omega
  | touch =>
    simp only [effectsOf, List.countP_append]
    omega

namespace Effect

variable {resources : Asset.Resources} {offset : Single} {sprite : SpriteId} {spec : Story.Effect}
  {effect : Effect}

/-- A fade is built where the story names one, and it has not come to its end. -/
theorem fade_build (built : build resources offset sprite spec = .ok effect) :
    effect.isFade = spec.isFade ∧ ∀ world, effect.hasFaded world = false := by
  cases spec with
  | audio sound =>
    simp only [build] at built
    split at built <;> cases built
    exact ⟨rfl, fun _ => rfl⟩
  | transition image =>
    simp only [build] at built
    split at built <;> cases built
    exact ⟨rfl, fun _ => rfl⟩
  | unresolved name fault => cases built
  | _ =>
    cases built
    exact ⟨rfl, fun _ => rfl⟩

end Effect

namespace Binder

/-- The effects that can be used are as many fades as the story names, or fewer. -/
theorem fades_usable (resources : Asset.Resources) (offset : Single) (sprite : SpriteId)
    (specs : List Story.Effect) :
    (usable (specs.map (Effect.build resources offset sprite))).countP Effect.isFade ≤
      specs.countP Story.Effect.isFade := by
  induction specs with
  | nil => exact Nat.le_refl _
  | cons spec rest ih =>
    unfold usable at ih ⊢
    rw [List.map_cons, List.filterMap_cons, List.countP_cons]
    cases built : Effect.build resources offset sprite spec with
    | error skipped => exact Nat.le_add_right_of_le ih
    | ok effect =>
      simp only [Except.toOption, List.countP_cons, (Effect.fade_build built).1]
      omega

theorem unfaded_usable {resources : Asset.Resources} {offset : Single} {sprite : SpriteId}
    {specs : List Story.Effect} {effect : Effect}
    (member : effect ∈ usable (specs.map (Effect.build resources offset sprite))) (world : World) :
    effect.hasFaded world = false := by
  obtain ⟨spec, _, built⟩ := List.mem_map.mp (mem_usable.mp member)
  exact (Effect.fade_build built).2 world

theorem fades_bindAction (binder : Binder) (name : String) (sprite : SpriteId) (bound : Bound)
    (action : String × List Story.Effect) :
    (binder.bindAction name sprite bound action).bindings.fades ≤
      bound.bindings.fades + (Story.triggered action).countP Story.Effect.isFade := by
  unfold bindAction Story.triggered
  cases Trigger.ofKey? action.1 with
  | none => exact Nat.le_refl _
  | some trigger =>
    have few := fades_usable bound.world.resources binder.offset sprite action.2
    exact Nat.le_trans (bound.bindings.fades_set _) (Nat.add_le_add_left few _)

/-- **Binding gives a character at most as many fades as its story.** -/
theorem fades_bind (binder : Binder) (character : Story.Character) (sprite : SpriteId) (world : World) :
    (binder.bind character sprite world).bindings.fades ≤ character.fades := by
  have all : ∀ (actions : List (String × List Story.Effect)) (bound : Bound),
      (actions.foldl (binder.bindAction character.name sprite) bound).bindings.fades ≤
        bound.bindings.fades + (actions.flatMap Story.triggered).countP Story.Effect.isFade := by
    intro actions
    induction actions with
    | nil => exact fun bound => Nat.le_refl _
    | cons action rest ih =>
      intro bound
      rw [List.flatMap_cons, List.countP_append, ← Nat.add_assoc]
      exact Nat.le_trans (ih _)
        (Nat.add_le_add_right (binder.fades_bindAction character.name sprite bound action) _)
  exact Nat.le_trans (all character.actions ⟨.none, [], world⟩) (Nat.le_of_eq (Nat.zero_add _))

/-- **The fades that binding gives a character have not come to their end.** -/
theorem unfaded_bind (binder : Binder) (character : Story.Character) (sprite : SpriteId) (world last : World) :
    ∀ effect ∈ (binder.bind character sprite world).bindings.effects, effect.hasFaded last = false := by
  refine List.foldlRecOn
    (motive := fun bound : Bound => ∀ effect ∈ bound.bindings.effects, effect.hasFaded last = false)
    character.actions (binder.bindAction character.name sprite) (fun _ none => nomatch none) ?_
  intro bound new action _ effect member
  unfold bindAction at member
  cases trigger : Trigger.ofKey? action.1 with
  | none =>
    rw [trigger] at member
    exact new effect member
  | some trigger' =>
    rw [trigger] at member
    rcases Bindings.mem_effects_set member with old | usable
    · exact new effect old
    · exact unfaded_usable usable last

end Binder

/-! ### Counting -/

namespace Character

variable {character after : Character} {first last world : World}

/-- How many fades a character has. -/
def fades (character : Character) : Nat :=
  character.bindings.fades

/-- **How many fades of a character have come to their end.** -/
def faded (character : Character) (world : World) : Nat :=
  character.bindings.effects.countP (Effect.hasFaded world)

theorem faded_le_fades (character : Character) (world : World) :
    character.faded world ≤ character.fades :=
  List.countP_mono_left fun _ _ => Effect.isFade_of_hasFaded

/-- The fades of a character whose effects are left alone. -/
theorem faded_congr (same : ∀ holding ∈ holdingsOf character.bindings.effects, holding.timer = none →
    last.animator.isRegistered holding.tick = first.animator.isRegistered holding.tick) :
    character.faded last = character.faded first :=
  Chain.countP_hasFaded same

/-- A character that is not on the stage has no fades. -/
theorem Coherent.fades (coherent : character.Coherent) (offstage : character.sprite = none) :
    character.fades = 0 := by
  refine List.countP_eq_zero.mpr fun effect member fades => ?_
  cases effect with
  | fadeOut sprite speed state =>
    cases offstage.symm.trans (coherent.effects _ member sprite rfl)
  | _ => cases fades

/-- **What becomes of the fades of a character** that does something: motions come and go only under its
own handles, and either it keeps its sprite, and as many fades have come to their end as before, or it has
a new sprite, if any, and none has. -/
structure Tallies (before : Character) (first : World) (after : Character) (last : World) : Prop where
  agrees : Animator.Agrees before.ticks first.animator last.animator
  own : (after.sprite = before.sprite ∧ after.faded last = before.faded first) ∨
    (after.faded last = 0 ∧ ∀ sprite ∈ after.sprite, first.stage.issued < sprite.number)
  few : before.fades ≤ before.spec.fades → after.fades ≤ after.spec.fades

/-! ### Running chains -/

variable {loose : List Loose} {others : List Holding}

theorem agrees_fireOnLoad (character : Character) (world : World) :
    Animator.Agrees character.ticks world.animator (character.fireOnLoad world).2.animator := by
  unfold fireOnLoad ticks
  cases loads : character.bindings.onLoad with
  | none => exact .refl _
  | some chain =>
    refine (Chain.agrees_fireEach _ _ chain.effects world).mono fun tick member => ?_
    rw [holdings_eq, loads, List.map_append]
    exact List.mem_append_left _ member

/-- When the effects for the appearance run, no fade comes to its end. -/
theorem faded_fireOnLoad
    (held : Held loose (character.holdings ++ others) world.animator world.timers) :
    (character.fireOnLoad world).1.faded (character.fireOnLoad world).2 = character.faded world ∧
      (character.fireOnLoad world).1.fades = character.fades := by
  unfold fireOnLoad faded fades Bindings.fades Bindings.effects
  cases loads : character.bindings.onLoad with
  | none =>
    dsimp only
    rw [loads]
    exact ⟨rfl, rfl⟩
  | some chain =>
    rw [holdings_eq, loads, List.append_assoc] at held
    have fired := Chain.hasFaded_fireEach chain.trigger character.id chain.effects held
    have kinds := Chain.isFade_fireEach chain.trigger character.id chain.effects world
    have agrees := Chain.agrees_fireEach chain.trigger character.id chain.effects world
    have touch : (Bindings.effectsOf character.bindings.touch).countP
        (Effect.hasFaded (chain.fire character.id world).2) =
          (Bindings.effectsOf character.bindings.touch).countP (Effect.hasFaded world) := by
      refine Chain.countP_hasFaded fun holding member _ => held.undisturbed agrees ?_
      exact List.mem_append_left _ (List.mem_append_left _ member)
    simp only [List.countP_append]
    rw [touch]
    exact ⟨congrArg (· + _) (Chain.countP_of_map fired), congrArg (· + _) (Chain.countP_of_map kinds)⟩

/-- **When a character is touched, as many of its fades have come to their end as before.** -/
theorem tallies_touch (held : Held loose (character.holdings ++ others) world.animator world.timers) :
    character.Tallies world (character.touch world).2.1 (character.touch world).2.2 := by
  unfold touch
  split
  · rename_i sprite chain stands answers
    rw [holdings_eq, answers, List.append_assoc, List.append_assoc] at held
    have turned := held.perm (List.perm_append_comm_assoc _ _ _)
    have fired := Chain.hasFaded_fireEach chain.trigger character.id chain.effects turned
    have kinds := Chain.isFade_fireEach chain.trigger character.id chain.effects world
    have agrees := Chain.agrees_fireEach chain.trigger character.id chain.effects world
    have load : (Bindings.effectsOf character.bindings.onLoad).countP
        (Effect.hasFaded (chain.fire character.id world).2) =
          (Bindings.effectsOf character.bindings.onLoad).countP (Effect.hasFaded world) := by
      refine Chain.countP_hasFaded fun holding member _ => turned.undisturbed agrees ?_
      exact List.mem_append_left _ member
    have count : (chain.fire character.id world).1.effects.countP
        (Effect.hasFaded (chain.fire character.id world).2) =
          chain.effects.countP (Effect.hasFaded world) := Chain.countP_of_map fired
    have same : (chain.fire character.id world).1.effects.countP Effect.isFade =
        chain.effects.countP Effect.isFade := Chain.countP_of_map kinds
    refine ⟨agrees.mono fun tick member => ?_, Or.inl ⟨rfl, ?_⟩, ?_⟩
    · unfold ticks
      rw [holdings_eq, answers, List.map_append, List.map_append]
      exact List.mem_append_right _ (List.mem_append_left _ member)
    · unfold faded Bindings.effects
      rw [answers, List.countP_append, List.countP_append, load]
      exact congrArg (_ + ·) count
    · unfold fades Bindings.fades Bindings.effects
      rw [answers, List.countP_append, List.countP_append]
      exact fun few => same ▸ few
  · exact ⟨.refl _, Or.inl ⟨rfl, rfl⟩, fun few => few⟩

/-! ### Leaving the stage -/

theorem agrees_cancelChain (chain : Option Chain) (world : World) :
    Animator.Agrees (ticksOf (Bindings.effectsOf chain)) world.animator
      (Bindings.cancelChain chain world).animator := by
  cases chain with
  | none => exact .refl _
  | some chain => exact Chain.agrees_cancelEach chain.effects world

theorem agrees_withdraw (coherent : character.Coherent) (world : World) :
    Animator.Agrees character.ticks world.animator (character.withdraw world).2.animator := by
  have cancelled : Animator.Agrees character.ticks world.animator
      (character.bindings.cancel world).animator := by
    unfold ticks
    rw [holdings_eq, List.map_append, List.map_append]
    exact ((agrees_cancelChain _ world).mono fun _ => List.mem_append_left _).trans
      ((agrees_cancelChain _ _).mono fun _ member =>
        List.mem_append_right _ (List.mem_append_left _ member))
  have grounded := coherent.gravity
  unfold withdraw
  split
  · unfold disappear
    cases stands : character.sprite with
    | none =>
      rw [grounded stands]
      exact cancelled
    | some sprite =>
      cases falls : character.gravity with
      | none => exact cancelled
      | some tick =>
        refine cancelled.trans (Animator.agrees_deregister _ ?_)
        unfold ticks
        rw [holdings_eq, gravityHolding?, falls, stands, List.map_append, List.map_append]
        exact List.mem_append_right _ (List.mem_append_right _ List.mem_cons_self)
  · exact .refl _

/-! ### Entering the stage -/

theorem agrees_startGravity (character : Character) (sprite : SpriteId) (world : World) :
    Animator.Agrees [] world.animator (character.startGravity sprite world).2.animator := by
  unfold startGravity
  dsimp only
  split
  · exact .refl _
  · exact world.animator.agrees_register _

/-- When the effects of a character run and its gravity starts, no fade comes to its end. -/
theorem faded_begin (character : Character) (sprite : SpriteId)
    (held : Held loose (character.holdings ++ others) world.animator world.timers) :
    let begun := (character.fireOnLoad world).1.startGravity sprite (character.fireOnLoad world).2
    Animator.Agrees character.ticks world.animator begun.2.animator ∧
      begun.1.faded begun.2 = character.faded world ∧ begun.1.fades = character.fades := by
  intro begun
  obtain ⟨count, same⟩ := faded_fireOnLoad held
  have runs := (character.runs_fireOnLoad world).held held
  have lands := (character.fireOnLoad world).1.agrees_startGravity sprite (character.fireOnLoad world).2
  obtain ⟨gravity, after⟩ := startGravity_fst (character.fireOnLoad world).1 sprite
    (character.fireOnLoad world).2
  have late : begun.1.faded begun.2 = (character.fireOnLoad world).1.faded (character.fireOnLoad world).2 := by
    rw [show begun.1 = _ from after]
    refine faded_congr fun holding member _ => lands.others holding.tick List.not_mem_nil ?_
    exact runs.issued holding (List.mem_append_left _ (List.mem_append_left _ member))
  refine ⟨(character.agrees_fireOnLoad world).trans (lands.mono fun _ none => nomatch none),
    late.trans count, ?_⟩
  rw [show begun.1 = _ from after]
  exact same

/-- **When a character enters the stage, none of its fades has come to its end.** -/
theorem tallies_enterStage (character : Character) (binder : Binder) (texture : Asset.Texture)
    (rests : character.gravity = none)
    (held : Held loose others world.animator world.timers) :
    Animator.Agrees [] world.animator (character.enterStage binder texture world).2.animator ∧
      (character.enterStage binder texture world).1.faded
          (character.enterStage binder texture world).2 = 0 ∧
        (character.enterStage binder texture world).1.fades ≤ character.spec.fades := by
  let made := world.createSprite (newSprite character.spec texture)
  let bound := binder.bind character.spec made.1 made.2
  let shown := ((bound.world.reportAll (bound.skipped.map (.effectSkipped character.name))).attachSprite
    made.1).report (.characterShown character.id character.name)
  let dressed := character.dressed made.1 bound.bindings
  have fresh : Binder.Fresh made.1 made.2 bound := binder.fresh_bind _ _ _
  have nothing : dressed.holdings = [] := character.holdings_dressed fresh rests
  obtain ⟨animator, timers⟩ : shown.animator = bound.world.animator ∧ shown.timers = bound.world.timers :=
    character.still_show bound.world made.1 bound.skipped
  have bare : Held loose (dressed.holdings ++ others) shown.animator shown.timers := by
    rw [nothing, animator, timers, fresh.animator, fresh.timers]
    exact held
  have unfaded : dressed.faded shown = 0 :=
    List.countP_eq_zero.mpr fun effect member faded =>
      nomatch (binder.unfaded_bind character.spec made.1 made.2 shown effect member).symm.trans faded
  obtain ⟨agrees, count, same⟩ := dressed.faded_begin made.1 bare
  rw [ticks, nothing, animator, fresh.animator] at agrees
  exact ⟨agrees, count.trans unfaded,
    Nat.le_trans (Nat.le_of_eq same) (binder.fades_bind character.spec made.1 made.2)⟩

/-- **When a character appears, none of its fades has come to its end.** -/
theorem tallies_appear (coherent : character.Coherent) (binder : Binder)
    (held : Held loose (character.holdings ++ others) world.animator world.timers) :
    character.Tallies world (character.appear binder world).1 (character.appear binder world).2 := by
  have withdraws := character.turns_withdraw world
  have leaves := agrees_withdraw coherent world
  have offstage := character.sprite_withdraw world
  have rests := (withdraws.coherent coherent).gravity offstage
  have left := held_withdraw coherent held
  rw [appear_eq]
  split
  · rename_i texture _
    obtain ⟨agrees, unfaded, few⟩ := tallies_enterStage _ binder texture rests left
    have arrives := arrives_enterStage (character.withdraw world).1 binder texture
      (character.withdraw world).2
    refine ⟨leaves.trans (agrees.mono fun _ none => nomatch none), Or.inr ⟨unfaded, ?_⟩, fun _ => ?_⟩
    · intro sprite stands
      cases arrives.sprite.symm.trans stands
      exact Nat.lt_succ_of_le withdraws.acts.stage.issued
    · rw [arrives.spec]
      exact few
  · have none := (withdraws.coherent coherent).fades offstage
    refine ⟨leaves, Or.inr ⟨?_, fun sprite stands => nomatch offstage.symm.trans stands⟩, fun _ => ?_⟩
    · exact Nat.le_zero.mp (none ▸ faded_le_fades (character.withdraw world).1 _)
    · exact none ▸ Nat.zero_le _

end Character

end Storybook
