/-
**Sprites lie in the order of their age.**

A sprite is drawn as soon as it is made, on top of all others, and it is never drawn again once it is
drawn no longer. So the sprites that are drawn lie in the order in which they were made, whatever scenes
and characters do.

* `SpriteId.Older`: the order in which sprites were made;
* `Stage.Piles`: between two stages sprites go, and new ones come on top;
* `Stage.Layered`: the sprites, and those that are drawn, are in the order of their age;
* `Character.piles_appear`, `Character.top_appear`: a character that appears comes on top;
* `Scene.piles_enter`, `Scene.piles_teardown`, ...: what is done with a scene.
-/

import Mathlib.Data.List.Sort
import Storybook.Proofs.Working

namespace Storybook

/-- A sprite was made before another one. -/
def SpriteId.Older (first second : SpriteId) : Prop :=
  first.number < second.number

instance : Std.Antisymm SpriteId.Older where
  antisymm _ _ older younger := absurd older (Nat.lt_asymm younger)

/-! ### Numbered lists -/

/-- Between two lists elements go, and others come at the end in the order of their numbers, which run
from one number to another. -/
def Appends {α : Type} (number : α → Nat) (given last : Nat) (before after : List α) : Prop :=
  ∃ old new, after = old ++ new ∧ old.Sublist before ∧
    (new.Pairwise fun one other => number one < number other) ∧
      ∀ one ∈ new, given < number one ∧ number one ≤ last

namespace Appends

variable {α : Type} {number : α → Nat} {first second third : List α} {given middle last : Nat}

theorem of_sublist (sublist : second.Sublist first) : Appends number given last first second :=
  ⟨second, [], (List.append_nil _).symm, sublist, .nil, nofun⟩

theorem trans (left : Appends number given middle first second)
    (right : Appends number middle last second third) (earlier : given ≤ middle)
    (later : middle ≤ last) : Appends number given last first third := by
  obtain ⟨old, new, rfl, sublist, sorted, range⟩ := left
  obtain ⟨kept, added, rfl, stays, rises, newer⟩ := right
  obtain ⟨rest, left, rfl, inside, among⟩ := List.sublist_append_iff.mp stays
  refine ⟨rest, left ++ added, List.append_assoc .., inside.trans sublist, ?_, ?_⟩
  · refine List.pairwise_append.mpr ⟨sorted.sublist among, rises, fun one member other member' => ?_⟩
    exact Nat.lt_of_le_of_lt (range one (among.subset member)).2 (newer other member').1
  · refine List.forall_mem_append.mpr ⟨fun one member => ?_, fun one member => ?_⟩
    · exact (range one (among.subset member)).imp_right fun below => Nat.le_trans below later
    · exact (newer one member).imp_left fun above => Nat.lt_of_le_of_lt earlier above

/-- An element is an old one or a new one. -/
theorem old_or_new (appends : Appends number given last first second) {one : α}
    (member : one ∈ second) : one ∈ first ∨ given < number one ∧ number one ≤ last := by
  obtain ⟨old, new, rfl, sublist, _, range⟩ := appends
  exact (List.mem_append.mp member).imp (fun stays => sublist.subset stays) (range one)

/-- Elements that are sorted stay sorted. -/
theorem sorted (appends : Appends number given last first second)
    (rises : first.Pairwise fun one other => number one < number other)
    (below : ∀ one ∈ first, number one ≤ given) :
    second.Pairwise fun one other => number one < number other := by
  obtain ⟨old, new, rfl, sublist, sorted, range⟩ := appends
  refine List.pairwise_append.mpr ⟨rises.sublist sublist, sorted, fun one member other member' => ?_⟩
  exact Nat.lt_of_le_of_lt (below one (sublist.subset member)) (range other member').1

end Appends

/-! ### Stages -/

namespace Stage

/-- Between the two stages sprites go, or are drawn no longer, and new ones come on top of all others. -/
structure Piles (before after : Stage) : Prop where
  issued : before.issued ≤ after.issued
  keys : Appends SpriteId.number before.issued after.issued before.keys after.keys
  order : Appends SpriteId.number before.issued after.issued before.order after.order

variable {stage first second third : Stage} {id : SpriteId}

theorem Thins.piles (thins : first.Thins second) : first.Piles second where
  issued := Nat.le_of_eq thins.issued.symm
  keys := .of_sublist (thins.keys ▸ .refl _)
  order := .of_sublist thins.order

theorem Keeps.piles (keeps : first.Keeps second) : first.Piles second :=
  keeps.thins.piles

theorem Piles.refl (stage : Stage) : stage.Piles stage :=
  (Thins.refl stage).piles

theorem Piles.of_eq (same : second = first) : first.Piles second :=
  same ▸ .refl first

theorem Piles.trans (left : first.Piles second) (right : second.Piles third) : first.Piles third where
  issued := Nat.le_trans left.issued right.issued
  keys := left.keys.trans right.keys left.issued right.issued
  order := left.order.trans right.order left.issued right.issued

theorem Piles.follows (piles : first.Piles second) : first.Follows second :=
  ⟨piles.issued, fun _ member => (piles.keys.old_or_new member).imp_right And.left⟩

/-- A sprite that is drawn no longer is never drawn again. -/
theorem Piles.undrawn (piles : first.Piles second) (given : id.number ≤ first.issued)
    (undrawn : id ∉ first.order) : id ∉ second.order :=
  fun drawn => (piles.order.old_or_new drawn).elim undrawn fun new => Nat.not_lt.mpr given new.1

theorem piles_destroy (stage : Stage) (id : SpriteId) : stage.Piles (stage.destroy id).2 where
  issued := Nat.le_refl _
  keys := .of_sublist (keys_destroy stage id ▸ List.filter_sublist)
  order := .of_sublist List.filter_sublist

/-- **A sprite that is made and drawn comes on top**, whatever happens to the look of sprites between. -/
theorem piles_place (stage : Stage) (sprite : Sprite) {dressed : Stage}
    (keeps : (stage.create sprite).2.Keeps dressed) :
    stage.Piles (dressed.attach (stage.create sprite).1).2 := by
  have given : ∀ id ∈ [(stage.create sprite).1], stage.issued < id.number ∧
      id.number ≤ (dressed.attach (stage.create sprite).1).2.issued := by
    rw [issued_attach, keeps.issued]
    exact List.forall_mem_singleton.mpr ⟨Nat.lt_succ_self _, Nat.le_refl _⟩
  constructor
  case issued =>
    rw [issued_attach, keeps.issued]
    exact Nat.le_succ _
  case keys =>
    rw [keys_attach, keeps.keys, keys_create]
    exact ⟨_, _, rfl, .refl _, List.pairwise_singleton .., given⟩
  case order =>
    unfold attach
    split
    · rename_i can
      rw [attach, if_pos can] at given
      exact ⟨_, _, congrArg (· ++ _) keeps.order, .refl _, List.pairwise_singleton .., given⟩
    · exact .of_sublist (keeps.order ▸ .refl _)

/-- It is the topmost sprite then. -/
theorem getLast?_place (valid : stage.Valid) (sprite : Sprite) {dressed : Stage}
    (keeps : (stage.create sprite).2.Keeps dressed) :
    (dressed.attach (stage.create sprite).1).2.order.getLast? = some (stage.create sprite).1 := by
  have live : (stage.create sprite).1 ∈ dressed.keys := by
    rw [keeps.keys, keys_create]
    exact List.mem_append_right _ (List.mem_singleton_self _)
  have free : (stage.create sprite).1 ∉ dressed.order := by
    rw [keeps.order]
    exact fun drawn => valid.fresh sprite (valid.drawn _ drawn)
  unfold attach
  rw [if_pos (canAttach_iff.mpr ⟨live, free⟩)]
  exact List.getLast?_concat

/-- The sprites, and those of them that are drawn, are in the order of their age. -/
structure Layered (stage : Stage) : Prop where
  keys : stage.keys.Pairwise SpriteId.Older
  order : stage.order.Pairwise SpriteId.Older

theorem layered_empty (viewport : Viewport) : (empty viewport).Layered :=
  ⟨.nil, .nil⟩

theorem Layered.stack (layered : first.Layered) (valid : first.Valid) (piles : first.Piles second) :
    second.Layered where
  keys := piles.keys.sorted layered.keys valid.issued
  order := piles.order.sorted layered.order fun id drawn => valid.issued id (valid.drawn id drawn)

/-- The sprites that are drawn are listed as the sprites are. -/
theorem Layered.sublist (layered : stage.Layered) (valid : stage.Valid) :
    stage.order.Sublist stage.keys :=
  List.sublist_of_subperm_of_pairwise (List.subperm_of_subset valid.once valid.drawn) layered.order
    layered.keys

/-- No sprite of the stage is older than the given one. -/
structure Grounded (stage : Stage) (id : SpriteId) : Prop where
  given : id.number ≤ stage.issued
  oldest : ∀ other ∈ stage.keys, id.number ≤ other.number

theorem Grounded.follow (grounded : first.Grounded id) (follows : first.Follows second) :
    second.Grounded id where
  given := Nat.le_trans grounded.given follows.issued
  oldest other member := by
    rcases follows.keys other member with old | new
    · exact grounded.oldest other old
    · exact Nat.le_of_lt (Nat.lt_of_le_of_lt grounded.given new)

/-- The oldest sprite is at the bottom, while it is drawn. -/
theorem Layered.head? (layered : stage.Layered) (valid : stage.Valid) (grounded : stage.Grounded id)
    (drawn : id ∈ stage.order) : stage.order.head? = some id := by
  cases bottom : stage.order with
  | nil => cases bottom ▸ drawn
  | cons first rest =>
    have rises := bottom ▸ layered.order
    rw [bottom] at drawn
    rcases List.mem_cons.mp drawn with rfl | above
    · rfl
    · have below := grounded.oldest first (valid.drawn first (bottom ▸ List.mem_cons_self ..))
      exact absurd ((List.pairwise_cons.mp rises).1 id above) (Nat.not_lt.mpr below)

/-- The topmost sprite stays on top while no sprite comes, as long as it is drawn. -/
theorem Thins.getLast? (thins : first.Thins second) (rises : first.order.Pairwise SpriteId.Older)
    (top : first.order.getLast? = some id) (drawn : id ∈ second.order) :
    second.order.getLast? = some id := by
  obtain ⟨below, same⟩ := List.getLast?_eq_some_iff.mp top
  obtain ⟨rest, last, split, inside, among⟩ := List.sublist_append_iff.mp (same ▸ thins.order)
  have apart : id ∉ below := fun under =>
    Nat.lt_irrefl _ ((List.pairwise_append.mp (same ▸ rises)).2.2 id under id (List.mem_singleton_self id))
  rw [split] at drawn ⊢
  rcases List.sublist_singleton.mp among with rfl | rfl
  · rw [List.append_nil] at drawn
    exact absurd (inside.subset drawn) apart
  · exact List.getLast?_concat

end Stage

/-! ### Characters -/

namespace Character

variable (character : Character) (world : World)

theorem piles_disappear : world.stage.Piles (character.disappear world).2.stage := by
  rw [stage_disappear]
  split
  · exact world.stage.piles_destroy _
  · exact .refl _

theorem piles_withdraw : world.stage.Piles (character.withdraw world).2.stage := by
  unfold withdraw
  split
  · exact character.piles_disappear world
  · exact .refl _

/-- Gravity leaves the stage and the sprite of a character alone. -/
theorem stage_startGravity (sprite : SpriteId) :
    (character.startGravity sprite world).2.stage = world.stage ∧
      (character.startGravity sprite world).1.sprite = character.sprite := by
  unfold startGravity
  dsimp only
  split <;> exact ⟨rfl, rfl⟩

/-- A character enters the stage with a sprite that is made and drawn. -/
theorem stage_enterStage (binder : Binder) (texture : Asset.Texture) :
    let made := world.stage.create (newSprite character.spec texture)
    ∃ dressed, made.2.Keeps dressed ∧
      (dressed.attach made.1).2.Keeps (character.enterStage binder texture world).2.stage ∧
      (character.enterStage binder texture world).1.sprite = some made.1 := by
  let made := world.createSprite (newSprite character.spec texture)
  let bound := binder.bind character.spec made.1 made.2
  have fresh : Binder.Fresh made.1 made.2 bound := binder.fresh_bind _ _ _
  let shown := ((bound.world.reportAll (bound.skipped.map (.effectSkipped character.name))).attachSprite
    made.1).report (.characterShown character.id character.name)
  have drawn : shown.stage = (bound.world.stage.attach made.1).2 := by
    dsimp only [shown, World.report, World.attachSprite]
    rw [World.reportAll_eq]
  have runs := (character.dressed made.1 bound.bindings).runs_fireOnLoad shown
  obtain ⟨still, same⟩ := stage_startGravity
    ((character.dressed made.1 bound.bindings).fireOnLoad shown).1
    ((character.dressed made.1 bound.bindings).fireOnLoad shown).2 made.1
  refine ⟨bound.world.stage, fresh.stage, ?_, same.trans runs.sprite⟩
  have keeps := runs.stage
  rw [drawn, ← still] at keeps
  exact keeps

theorem piles_enterStage (binder : Binder) (texture : Asset.Texture) :
    world.stage.Piles (character.enterStage binder texture world).2.stage := by
  obtain ⟨dressed, keeps, begins, _⟩ := character.stage_enterStage world binder texture
  exact (world.stage.piles_place _ keeps).trans begins.piles

/-- **A character that appears comes on top**, and its old sprite goes. -/
theorem piles_appear (binder : Binder) : world.stage.Piles (character.appear binder world).2.stage := by
  have left := character.piles_withdraw world
  rw [appear_eq]
  split
  · exact left.trans (piles_enterStage _ _ binder _)
  · exact left

/-- After it appears, its sprite is the topmost one. -/
theorem top_appear (valid : world.stage.Valid) (binder : Binder) {sprite : SpriteId}
    (shown : (character.appear binder world).1.sprite = some sprite) :
    (character.appear binder world).2.stage.order.getLast? = some sprite := by
  have empty : (character.withdraw world).2.stage.Valid := by
    unfold withdraw
    split
    · rw [stage_disappear]
      split
      · exact valid.destroy _
      · exact valid
    · exact valid
  rw [appear_eq] at shown ⊢
  split at shown
  · rename_i texture _
    obtain ⟨dressed, keeps, begins, stands⟩ :=
      (character.withdraw world).1.stage_enterStage (character.withdraw world).2 binder texture
    cases stands.symm.trans shown
    rw [begins.order]
    exact Stage.getLast?_place empty _ keeps
  · cases (character.sprite_withdraw world).symm.trans shown

theorem keeps_touch : world.stage.Keeps (character.touch world).2.2.stage :=
  (character.runs_touch world).stage

end Character

/-! ### Scenes -/

namespace Scene

variable (scene : Scene) (world : World)

theorem piles_appearEach (binder : Binder) (characters : List Character) :
    ∀ world : World, world.stage.Piles (appearEach binder characters world).2.stage := by
  induction characters with
  | nil => exact fun world => .refl world.stage
  | cons character rest ih => exact fun world => (character.piles_appear world binder).trans (ih _)

theorem piles_disappearEach (characters : List Character) :
    ∀ world : World, world.stage.Piles (disappearEach characters world).2.stage := by
  induction characters with
  | nil => exact fun world => .refl world.stage
  | cons character rest ih => exact fun world => (character.piles_disappear world).trans (ih _)

theorem piles_drawBackground : world.stage.Piles (scene.drawBackground world).2.stage := by
  unfold drawBackground
  split
  · exact world.stage.piles_place _ (.refl _)
  · exact .refl _

theorem stage_enterSounds : (scene.enterSounds world).2.stage = world.stage :=
  (scene.sounds.sounds_start world).stage

theorem stage_setRetriggers : (scene.setRetriggers world).2.stage = world.stage := by
  obtain ⟨remarks, same⟩ := scene.remarkRetriggered_eq world
  unfold setRetriggers
  rw [retriggerEach_eq, same]

/-- The stage after a scene is entered: the background is drawn first, then the characters appear. -/
theorem stage_enter {scene : Scene} (new : scene.state = .uninitialized) :
    let begun := scene.enterSounds (scene.remarkEntry world)
    let drawn := begun.1.drawBackground begun.2
    (scene.enter world).2.stage = (drawn.1.enterCharacters drawn.2).2.stage ∧
      (scene.enter world).1.background = drawn.1.background := by
  rw [enter_eq new]
  exact ⟨stage_setRetriggers _ _, rfl⟩

theorem piles_enter : world.stage.Piles (scene.enter world).2.stage := by
  by_cases new : scene.state = .uninitialized
  · rw [(stage_enter world new).1]
    have silent := scene.stage_enterSounds (scene.remarkEntry world)
    exact ((Stage.Piles.of_eq silent).trans (piles_drawBackground _ _)).trans (piles_appearEach _ _ _)
  · unfold enter
    rw [if_neg new]
    exact .refl _

theorem grounded_drawBackground (blank : scene.background = none) (empty : world.stage.keys = [])
    {sprite : SpriteId} (drawn : (scene.drawBackground world).1.background = some sprite) :
    (scene.drawBackground world).2.stage.Grounded sprite := by
  unfold drawBackground at drawn ⊢
  split at drawn
  · rename_i texture _
    cases drawn
    have single : (world.stage.create (Sprite.ofTexture scene.backgroundImage texture)).2.keys =
        [(world.stage.create (Sprite.ofTexture scene.backgroundImage texture)).1] := by
      rw [Stage.keys_create, empty]
      rfl
    have made : (world.stage.create (Sprite.ofTexture scene.backgroundImage texture)).2.Grounded
        (world.stage.create (Sprite.ofTexture scene.backgroundImage texture)).1 := by
      refine ⟨Nat.le_refl _, ?_⟩
      rw [single]
      exact List.forall_mem_singleton.mpr (Nat.le_refl _)
    exact made.follow (Stage.follows_attach _ _)
  · cases blank.symm.trans drawn

/-- **The background is the oldest sprite** of a scene that enters an empty stage. -/
theorem grounded_enter (new : scene.state = .uninitialized)
    (blank : scene.background = none) (empty : world.stage.keys = []) {sprite : SpriteId}
    (drawn : (scene.enter world).1.background = some sprite) :
    (scene.enter world).2.stage.Grounded sprite := by
  obtain ⟨same, ground⟩ := stage_enter world new
  have silent := scene.stage_enterSounds (scene.remarkEntry world)
  rw [same]
  have bottom := grounded_drawBackground (scene.enterSounds (scene.remarkEntry world)).1 _ blank
    ((congrArg Stage.keys silent).trans empty) (ground.symm.trans drawn)
  exact bottom.follow (piles_appearEach _ _ _).follows

theorem piles_teardown : world.stage.Piles (scene.teardown world).2.stage := by
  unfold teardown
  split
  · exact .refl _
  · have silent : ((scene.sounds.stop (scene.retriggers.foldl World.cancelTimer world)).2).stage =
        world.stage :=
      (scene.sounds.sounds_stop _).stage.trans (World.sounds_cancelTimers _ world).stage
    have left := (Stage.Piles.of_eq silent).trans (piles_disappearEach scene.characters _)
    cases scene.background with
    | none => exact left
    | some sprite => exact left.trans (Stage.piles_destroy _ sprite)

theorem piles_retrigger (id : CharacterId) : world.stage.Piles (scene.retrigger id world).2.stage := by
  unfold retrigger
  split
  · split
    · exact Character.piles_appear _ world _
    · exact .refl _
  · exact .refl _

theorem stage_playSound (link : Nat) : (scene.playSound link world).2.stage = world.stage := by
  unfold playSound
  split
  · rfl
  · exact (scene.sounds.sounds_play link world).stage

theorem keeps_touch (id : CharacterId) : world.stage.Keeps (scene.touch id world).2.2.stage := by
  unfold touch
  split
  · split
    · exact Character.keeps_touch _ world
    · exact .refl _
  · exact .refl _

theorem keeps_pointerUpAt (x y : Single) : world.stage.Keeps (scene.pointerUpAt x y world).2.2.stage := by
  unfold pointerUpAt pointerUp
  split
  · split
    · exact scene.keeps_touch world _
    · exact .refl _
  · exact .refl _

end Scene

end Storybook
