/-
**Characters appear alike.**

Effects that run in worlds that mirror each other do the same, and so does a character that appears
in both: it is the same up to the names of its handles, and the worlds mirror each other again.

* `World.Mirrors.execute`, `World.Mirrors.fire`: effects that run;
* `World.Mirrors.bind`: effects that are bound;
* `World.Mirrors.appear`: a character that is not on the stage appears.
-/

import Storybook.Proofs.Mirroring.Worlds

namespace Storybook

/-! ### Renamed effects -/

theorem Effect.kind_rename (names : Renaming) (effect : Effect) :
    (effect.rename names).kind = effect.kind := by
  cases effect <;> rfl

/-- An effect is built alike on a sprite of another handle. -/
theorem Effect.build_rename (names : Renaming) (resources : Asset.Resources) (offset : Single)
    (sprite : SpriteId) (spec : Story.Effect) :
    Effect.build resources offset (names.sprite sprite) spec =
      (Effect.build resources offset sprite spec).map (Effect.rename names) := by
  cases spec with
  | audio sound =>
    unfold Effect.build
    dsimp only
    split <;> rfl
  | transition image =>
    unfold Effect.build
    dsimp only
    split <;> rfl
  | move => rfl
  | bounce => rfl
  | fadeOut => rfl
  | spin => rfl
  | unresolved => rfl

theorem Binder.usable_map (names : Renaming) (built : List (Except SkippedEffect Effect)) :
    Binder.usable (built.map (Except.map (Effect.rename names))) =
      (Binder.usable built).map (Effect.rename names) := by
  unfold Binder.usable
  rw [List.filterMap_map, List.map_filterMap]
  refine List.filterMap_congr fun result _ => ?_
  cases result <;> rfl

theorem Binder.unusable_map (names : Renaming) (built : List (Except SkippedEffect Effect)) :
    Binder.unusable (built.map (Except.map (Effect.rename names))) = Binder.unusable built := by
  unfold Binder.unusable
  rw [List.filterMap_map]
  refine List.filterMap_congr fun result _ => ?_
  cases result <;> rfl

/-- Events about effects that are left out name no handles. -/
theorem Event.rename_skipped (names : Renaming) (name : String) (skipped : List SkippedEffect) :
    (skipped.map (Event.effectSkipped name)).map (Event.rename names) =
      skipped.map (Event.effectSkipped name) := by
  rw [List.map_map]
  rfl

namespace World.Mirrors

variable {lag : Lag} {past : List Event} {first second : World}

/-! ### Effects that run -/

theorem refreshMove (mirrors : first.Mirrors lag past second) (state : MoveState) :
    (state.rename lag.names).refresh second = (state.refresh first).rename lag.names := by
  cases state with
  | idle => rfl
  | pending timer tick =>
    unfold MoveState.rename MoveState.refresh
    dsimp only
    rw [mirrors.isPending, mirrors.isRegistered]
    split
    · rfl
    · split <;> rfl
  | moving tick =>
    unfold MoveState.rename MoveState.refresh
    dsimp only
    rw [mirrors.isRegistered]
    split <;> rfl

theorem startMove (mirrors : first.Mirrors lag past second) (sprite : SpriteId) (velocity : Single)
    (pause : Nat) :
    (MoveState.start (lag.names.sprite sprite) velocity pause second).1 =
        (MoveState.start sprite velocity pause first).1.rename lag.names ∧
      (MoveState.start sprite velocity pause first).2.Mirrors lag past
        (MoveState.start (lag.names.sprite sprite) velocity pause second).2 := by
  unfold MoveState.start
  split
  · obtain ⟨tick, registered⟩ := mirrors.registerMotion (.drift sprite velocity)
    exact ⟨congrArg MoveState.moving tick, registered⟩
  · obtain ⟨tick, reserved⟩ := mirrors.reserve
    obtain ⟨timer, scheduled⟩ := reserved.schedule pause
      (.startMotion first.animator.reserve.1 (.drift sprite velocity))
    have task : Task.startMotion second.animator.reserve.1
        (.drift (lag.names.sprite sprite) velocity) =
        (Task.startMotion first.animator.reserve.1 (.drift sprite velocity)).rename lag.names :=
      congrArg (Task.startMotion · _) tick
    dsimp only
    rw [task]
    exact ⟨congrArg₂ MoveState.pending timer tick, scheduled⟩

theorem executeMove (mirrors : first.Mirrors lag past second) (sprite : SpriteId) (velocity : Single)
    (pause : Nat) (state : MoveState) :
    ((state.rename lag.names).execute (lag.names.sprite sprite) velocity pause second).1 =
        (state.execute sprite velocity pause first).1.rename lag.names ∧
      (state.execute sprite velocity pause first).2.Mirrors lag past
        ((state.rename lag.names).execute (lag.names.sprite sprite) velocity pause second).2 := by
  unfold MoveState.execute
  rw [mirrors.refreshMove]
  cases state.refresh first with
  | idle => exact mirrors.startMove sprite velocity pause
  | pending timer tick => exact ⟨rfl, mirrors⟩
  | moving tick => exact ⟨rfl, mirrors⟩

theorem executeFade (mirrors : first.Mirrors lag past second) (sprite : SpriteId) (speed : Single)
    (state : FadeState) :
    ((state.rename lag.names).execute (lag.names.sprite sprite) speed second).1 =
        (state.execute sprite speed first).1.rename lag.names ∧
      (state.execute sprite speed first).2.Mirrors lag past
        ((state.rename lag.names).execute (lag.names.sprite sprite) speed second).2 := by
  have refreshed : (state.rename lag.names).refresh second =
      (state.refresh first).rename lag.names := by
    cases state with
    | idle => rfl
    | done => rfl
    | fading tick =>
      unfold FadeState.rename FadeState.refresh
      dsimp only
      rw [mirrors.isRegistered]
      split <;> rfl
  unfold FadeState.execute
  rw [refreshed]
  cases state.refresh first with
  | idle =>
    obtain ⟨tick, registered⟩ := mirrors.registerMotion (.fade sprite speed)
    exact ⟨congrArg FadeState.fading tick, registered⟩
  | fading tick => exact ⟨rfl, mirrors⟩
  | done => exact ⟨rfl, mirrors⟩

theorem executeSpin (mirrors : first.Mirrors lag past second) (sprite : SpriteId) (speed : Single)
    (state : SpinState) :
    ((state.rename lag.names).execute (lag.names.sprite sprite) speed second).1 =
        (state.execute sprite speed first).1.rename lag.names ∧
      (state.execute sprite speed first).2.Mirrors lag past
        ((state.rename lag.names).execute (lag.names.sprite sprite) speed second).2 := by
  cases state with
  | idle =>
    have turned := mirrors.modifySprite sprite fun sprite => { sprite with anchor := ⟨0.5, 0.5⟩ }
    obtain ⟨tick, registered⟩ := turned.registerMotion (.spin sprite speed)
    exact ⟨congrArg SpinState.active tick, registered⟩
  | active tick => exact ⟨rfl, (mirrors.deregisterMotion tick).modifySprite sprite _⟩

/-- **An effect does the same** in worlds that mirror each other. -/
theorem execute (mirrors : first.Mirrors lag past second) (effect : Effect) :
    ((effect.rename lag.names).execute second).1 = (effect.execute first).1.rename lag.names ∧
      (effect.execute first).2.Mirrors lag past ((effect.rename lag.names).execute second).2 := by
  cases effect with
  | audio sound => exact ⟨rfl, (mirrors.silence sound).playSound sound⟩
  | move sprite velocity pause state =>
    obtain ⟨same, executed⟩ := mirrors.executeMove sprite velocity pause state
    exact ⟨congrArg (Effect.move _ velocity pause) same, executed⟩
  | bounce sprite offset => exact ⟨rfl, mirrors.modifySprite sprite _⟩
  | transition sprite image texture => exact ⟨rfl, mirrors.modifySprite sprite _⟩
  | fadeOut sprite speed state =>
    obtain ⟨same, executed⟩ := mirrors.executeFade sprite speed state
    exact ⟨congrArg (Effect.fadeOut _ speed) same, executed⟩
  | spin sprite speed state =>
    obtain ⟨same, executed⟩ := mirrors.executeSpin sprite speed state
    exact ⟨congrArg (Effect.spin _ speed) same, executed⟩

theorem fireEach (trigger : Trigger) (character : CharacterId) (effects : List Effect) :
    ∀ {first second : World}, first.Mirrors lag past second →
      (Chain.fireEach trigger character (effects.map (Effect.rename lag.names)) second).1 =
          (Chain.fireEach trigger character effects first).1.map (Effect.rename lag.names) ∧
        (Chain.fireEach trigger character effects first).2.Mirrors lag past
          (Chain.fireEach trigger character (effects.map (Effect.rename lag.names)) second).2 := by
  induction effects with
  | nil => exact fun mirrors => ⟨rfl, mirrors⟩
  | cons effect rest ih =>
    intro first second mirrors
    have told := mirrors.report (.effectExecuted character trigger effect.kind)
    obtain ⟨same, executed⟩ := told.execute effect
    obtain ⟨others, fired⟩ := ih executed
    rw [List.map_cons, Chain.fireEach, Chain.fireEach, Effect.kind_rename]
    exact ⟨congrArg₂ List.cons same others, fired⟩

/-- A chain of effects does the same. -/
theorem fire (mirrors : first.Mirrors lag past second) (chain : Chain) (character : CharacterId) :
    ((chain.rename lag.names).fire character second).1 =
        (chain.fire character first).1.rename lag.names ∧
      (chain.fire character first).2.Mirrors lag past
        ((chain.rename lag.names).fire character second).2 := by
  obtain ⟨same, fired⟩ := mirrors.fireEach chain.trigger character chain.effects
  exact ⟨congrArg (Chain.mk chain.trigger) same, fired⟩

/-! ### Effects that are bound -/

theorem remarkSkipped (name : String) (trigger : Trigger) (skipped : List SkippedEffect) :
    ∀ {first second : World}, first.Mirrors lag past second →
      (skipped.foldl (Binder.remarkSkipped name trigger) first).Mirrors lag past
        (skipped.foldl (Binder.remarkSkipped name trigger) second) := by
  induction skipped with
  | nil => exact fun mirrors => mirrors
  | cons effect rest ih => exact fun mirrors => ih (mirrors.remark _ _ _ _ _ _)

/-- What the binding of actions has come to in two worlds is the same up to the names of handles. -/
structure Binds (lag : Lag) (past : List Event) (first second : Binder.Bound) : Prop where
  bindings : second.bindings = first.bindings.rename lag.names
  skipped : second.skipped = first.skipped
  world : first.world.Mirrors lag past second.world

theorem Binds.action {first second : Binder.Bound} (binds : Binds lag past first second)
    (binder : Binder) (name : String) (sprite : SpriteId) (action : String × List Story.Effect) :
    Binds lag past (binder.bindAction name sprite first action)
      (binder.bindAction name (lag.names.sprite sprite) second action) := by
  unfold Binder.bindAction
  split
  · exact { binds with world := binds.world.remark _ _ _ _ _ _ }
  · rename_i trigger _
    have built : action.2.map
        (Effect.build second.world.resources binder.offset (lag.names.sprite sprite)) =
        (action.2.map (Effect.build first.world.resources binder.offset sprite)).map
          (Except.map (Effect.rename lag.names)) := by
      rw [binds.world.resources, List.map_map]
      exact List.map_congr_left fun spec _ => Effect.build_rename lag.names _ _ _ spec
    dsimp only
    rw [built, Binder.usable_map, Binder.unusable_map]
    refine ⟨?_, ?_, ?_⟩
    · rw [binds.bindings]
      cases trigger <;> rfl
    · rw [binds.skipped]
    · have told := binds.world.remarkSkipped name trigger
        (Binder.unusable (action.2.map (Effect.build first.world.resources binder.offset sprite)))
      dsimp only
      split
      · exact told.modifySprite sprite _
      · exact told

/-- **The effects of a character are bound alike.** -/
theorem bind (mirrors : first.Mirrors lag past second) (binder : Binder)
    (character : Story.Character) (sprite : SpriteId) :
    Binds lag past (binder.bind character sprite first)
      (binder.bind character (lag.names.sprite sprite) second) := by
  have each : ∀ (actions : List (String × List Story.Effect)) {first second : Binder.Bound},
      Binds lag past first second →
        Binds lag past (actions.foldl (binder.bindAction character.name sprite) first)
          (actions.foldl (binder.bindAction character.name (lag.names.sprite sprite)) second) := by
    intro actions
    induction actions with
    | nil => exact fun binds => binds
    | cons action rest ih => exact fun binds => ih (binds.action binder character.name sprite action)
  exact each character.actions ⟨rfl, rfl, mirrors⟩

/-! ### Characters -/

theorem fireOnLoad (mirrors : first.Mirrors lag past second) (character : Character) :
    ((character.rename lag.names).fireOnLoad second).1 =
        (character.fireOnLoad first).1.rename lag.names ∧
      (character.fireOnLoad first).2.Mirrors lag past
        ((character.rename lag.names).fireOnLoad second).2 := by
  obtain ⟨id, spec, sprite, ⟨onLoad, touch⟩, gravity⟩ := character
  cases onLoad with
  | none => exact ⟨rfl, mirrors⟩
  | some chain =>
    obtain ⟨same, fired⟩ := mirrors.fire chain id
    have whole := congrArg (fun chain => Character.mk id spec (sprite.map lag.names.sprite)
      ⟨some chain, touch.map (Chain.rename lag.names)⟩ (gravity.map lag.names.tick)) same
    exact ⟨whole, fired⟩

theorem startGravity (mirrors : first.Mirrors lag past second) (character : Character)
    (sprite : SpriteId) :
    ((character.rename lag.names).startGravity (lag.names.sprite sprite) second).1 =
        (character.startGravity sprite first).1.rename lag.names ∧
      (character.startGravity sprite first).2.Mirrors lag past
        ((character.rename lag.names).startGravity (lag.names.sprite sprite) second).2 := by
  unfold Character.startGravity
  dsimp only [Character.rename]
  split
  · exact ⟨rfl, mirrors⟩
  · obtain ⟨tick, registered⟩ := mirrors.registerMotion (.gravity sprite character.spec.gravity 0)
    have whole := congrArg (fun tick => { character.rename lag.names with gravity := some tick }) tick
    exact ⟨whole, registered⟩

theorem enterStage (mirrors : first.Mirrors lag past second) (character : Character)
    (binder : Binder) (texture : Asset.Texture) :
    ((character.rename lag.names).enterStage binder texture second).1 =
        (character.enterStage binder texture first).1.rename lag.names ∧
      (character.enterStage binder texture first).2.Mirrors lag past
        ((character.rename lag.names).enterStage binder texture second).2 := by
  obtain ⟨same, created⟩ := mirrors.createSprite (Character.newSprite character.spec texture)
  unfold Character.enterStage
  dsimp only [Character.rename, Character.name]
  rw [same]
  generalize first.createSprite (Character.newSprite character.spec texture) = made at created ⊢
  generalize second.createSprite (Character.newSprite character.spec texture) = other at created ⊢
  have bound := created.bind binder character.spec made.1
  rw [bound.bindings, bound.skipped]
  generalize binder.bind character.spec made.1 made.2 = dressed at bound ⊢
  have told := bound.world.reportAll (dressed.skipped.map (.effectSkipped character.spec.name))
  rw [Event.rename_skipped] at told
  have placed := (told.attachSprite made.1).report
    (.characterShown character.id character.spec.name)
  obtain ⟨fired, ran⟩ := placed.fireOnLoad
    { character with sprite := some made.1, bindings := dressed.bindings }
  obtain ⟨started, fell⟩ := ran.startGravity _ made.1
  rw [← fired] at started fell
  exact ⟨started, fell⟩

/-- **A character that is not on the stage appears alike.** -/
theorem appear (mirrors : first.Mirrors lag past second) {character : Character}
    (absent : character.sprite = none) (binder : Binder) :
    ((character.rename lag.names).appear binder second).1 =
        (character.appear binder first).1.rename lag.names ∧
      (character.appear binder first).2.Mirrors lag past
        ((character.rename lag.names).appear binder second).2 := by
  have absent' : (character.rename lag.names).sprite = none := congrArg (Option.map _) absent
  unfold Character.appear
  rw [absent, absent', Option.isSome_none, if_neg Bool.false_ne_true, if_neg Bool.false_ne_true]
  dsimp only
  rw [mirrors.resources, show (character.rename lag.names).spec = character.spec from rfl]
  cases first.resources.texture? character.spec.image with
  | none => exact ⟨rfl, mirrors.remark _ _ _ _ _ _⟩
  | some texture => exact mirrors.enterStage character binder texture

end World.Mirrors

end Storybook
