/-
**What is drawn is on the stage.**

The sprites of a stage and the order in which they are drawn are kept apart, and requests change the one or
the other, with any handles, also of sprites that are gone. They agree all the same: what is drawn is on the
stage and is drawn once. A sprite comes to be drawn on top of all others or not at all, one that is no longer
drawn leaves the others in their order, and one that is taken off the stage never comes back.

* `Stage.Request`, `Stage.respond`: what is asked of a stage, and what it answers;
* `Stage.Valid.serve`, `Stage.Valid.run`: one request, and all requests, leave a stage valid;
* `Stage.follows_run`: sprites come only under new handles;
* `Stage.Valid.map_drawn`, `Stage.drawn_attach`, `Stage.drawn_detach`, `Stage.drawn_destroy`: what is drawn;
* `Stage.Lost`: a sprite that is gone is neither drawn nor met, nor attached (`Stage.Gone.lost`);
* `Stage.draws_consistently`: all that holds of every stage that comes about.
-/

import Storybook.Proofs.Abiding

namespace Storybook.Stage

/-! ### Requests -/

/-- What is asked of a stage. A sprite that is on the stage may be changed in any way. -/
inductive Request
  | create (sprite : Sprite)
  | attach (id : SpriteId)
  | detach (id : SpriteId)
  | destroy (id : SpriteId)
  | change (id : SpriteId) (change : Sprite → Sprite)
  | resize (viewport : Viewport)

/-- What is answered. -/
inductive Answer
  | made (id : SpriteId)
  | whether (holds : Bool)
  | found (sprite : Option Sprite)
  | done
deriving DecidableEq, Repr

/-- What is answered to a request, and the stage afterwards. -/
def respond (stage : Stage) : Request → Answer × Stage
  | .create sprite =>
    let (id, stage) := stage.create sprite
    (.made id, stage)
  | .attach id =>
    let (holds, stage) := stage.attach id
    (.whether holds, stage)
  | .detach id =>
    let (holds, stage) := stage.detach id
    (.whether holds, stage)
  | .destroy id =>
    let (sprite, stage) := stage.destroy id
    (.found sprite, stage)
  | .change id change => (.found (stage.find? id), stage.modify id change)
  | .resize viewport => (.done, stage.resize viewport)

/-- The handle that a request names. -/
def Request.target? : Request → Option SpriteId
  | .attach id | .detach id | .destroy id | .change id _ => some id
  | .create _ | .resize _ => none

/-- The stage after a request. -/
def serve (stage : Stage) (request : Request) : Stage :=
  (stage.respond request).2

/-- The stage after one request after the other. -/
def run (stage : Stage) (requests : List Request) : Stage :=
  requests.foldl serve stage

/-! ### Every request leaves a stage valid -/

variable {stage : Stage} {id other : SpriteId}

theorem Valid.serve (valid : stage.Valid) (request : Request) : (stage.serve request).Valid := by
  cases request with
  | create sprite => exact valid.create sprite
  | attach id => exact valid.attach id
  | detach id => exact valid.thin (stage.thins_detach id)
  | destroy id => exact valid.destroy id
  | change id change => exact valid.thin (stage.keeps_modify id change).thins
  | resize viewport => exact valid.thin (stage.keeps_resize viewport).thins

theorem Valid.run (valid : stage.Valid) (requests : List Request) : (stage.run requests).Valid := by
  induction requests generalizing stage with
  | nil => exact valid
  | cons request rest ih => exact ih (valid.serve request)

theorem follows_serve (stage : Stage) (request : Request) : stage.Follows (stage.serve request) := by
  cases request with
  | create sprite => exact stage.follows_create sprite
  | attach id => exact stage.follows_attach id
  | detach id => exact ⟨Nat.le_refl _, fun _ member => Or.inl member⟩
  | destroy id => exact stage.follows_destroy id
  | change id change => exact (stage.keeps_modify id change).follows
  | resize viewport => exact (stage.keeps_resize viewport).follows

/-- **Sprites come only under new handles**, whatever is asked. -/
theorem follows_run (stage : Stage) (requests : List Request) : stage.Follows (stage.run requests) := by
  induction requests generalizing stage with
  | nil => exact .refl stage
  | cons request rest ih => exact (stage.follows_serve request).trans (ih _)

/-! ### What is drawn -/

/-- The sprite of a handle as it is drawn, if it is on the stage. -/
def item? (stage : Stage) (id : SpriteId) : Option (SpriteId × Sprite) :=
  (stage.find? id).map fun sprite => (id, sprite)

theorem drawn_eq (stage : Stage) : stage.drawn = stage.order.filterMap stage.item? :=
  rfl

/-- **Every handle in the order is drawn**, since its sprite is on the stage. -/
theorem Valid.map_drawn (valid : stage.Valid) : stage.drawn.map Prod.fst = stage.order := by
  have shown : ∀ id ∈ stage.order, (stage.item? id).map Prod.fst = some id := by
    intro id drawn
    obtain ⟨sprite, found⟩ := Option.isSome_iff_exists.mp (isLive_iff.mpr (valid.drawn id drawn))
    rw [item?, found]
    rfl
  rw [drawn_eq, List.map_filterMap, List.filterMap_congr shown]
  exact List.filterMap_some

theorem canAttach_of_find? {sprite : Sprite} (found : stage.find? id = some sprite)
    (free : id ∉ stage.order) : stage.canAttach id = true :=
  canAttach_iff.mpr ⟨isLive_iff.mp (Option.isSome_of_eq_some found), free⟩

/-- **A sprite that is attached is drawn on top of all others.** -/
theorem drawn_attach {sprite : Sprite} (found : stage.find? id = some sprite) (free : id ∉ stage.order) :
    (stage.attach id).2.drawn = stage.drawn ++ [(id, sprite)] := by
  have can := canAttach_of_find? found free
  have shown : stage.item? id = some (id, sprite) := by rw [item?, found, Option.map_some]
  unfold attach
  rw [if_pos can]
  show (stage.order ++ [id]).filterMap stage.item? = stage.order.filterMap stage.item? ++ [(id, sprite)]
  rw [List.filterMap_append, List.filterMap_cons_some shown, List.filterMap_nil]

/-- What is drawn without a sprite, on a stage where the others are as they were. -/
theorem drawn_of_order_filter {after : Stage}
    (order : after.order = stage.order.filter fun other => other ≠ id)
    (others : ∀ other, other ≠ id → after.find? other = stage.find? other) :
    after.drawn = stage.drawn.filter fun item => item.1 ≠ id := by
  rw [drawn_eq, drawn_eq, order, List.filterMap_filter, List.filter_filterMap]
  refine List.filterMap_congr fun other _ => ?_
  unfold item?
  by_cases same : other = id
  · cases stage.find? other <;> simp [same, Option.filter]
  · rw [others other same]
    cases stage.find? other <;> simp [same, Option.filter]

theorem drawn_detach (stage : Stage) (id : SpriteId) :
    (stage.detach id).2.drawn = stage.drawn.filter fun item => item.1 ≠ id :=
  drawn_of_order_filter rfl fun _ _ => rfl

theorem drawn_destroy (stage : Stage) (id : SpriteId) :
    (stage.destroy id).2.drawn = stage.drawn.filter fun item => item.1 ≠ id :=
  drawn_of_order_filter rfl fun other different => by rw [find?_destroy, if_neg different]

/-! ### Sprites that are gone -/

/-- What can be touched is drawn. -/
theorem mem_order_of_hitTest {x y : Single} (met : stage.hitTest x y = some id) : id ∈ stage.order :=
  List.mem_reverse.mp (List.mem_of_find?_eq_some met)

theorem attach_of_not_canAttach (cannot : ¬ stage.canAttach id = true) : stage.attach id = (false, stage) :=
  if_neg cannot

theorem detach_of_not_mem (undrawn : id ∉ stage.order) : (stage.detach id).2 = stage := by
  have others : stage.order.filter (fun other => other ≠ id) = stage.order :=
    List.filter_eq_self.mpr fun other drawn => decide_eq_true fun same => undrawn (same ▸ drawn)
  unfold detach
  rw [others]

/-- Fewer sprites are drawn after one is detached, exactly if it was drawn. -/
theorem fewer_detach (stage : Stage) (id : SpriteId) :
    (stage.detach id).1 = decide (id ∈ stage.order) := by
  show (stage.order.length != (stage.detach id).2.order.length) = decide (id ∈ stage.order)
  rw [Bool.eq_iff_iff, bne_iff_ne, decide_eq_true_eq]
  constructor
  · intro fewer
    by_contra undrawn
    rw [detach_of_not_mem undrawn] at fewer
    exact fewer rfl
  · intro drawn
    have fewer : (stage.detach id).2.order.length < stage.order.length :=
      List.length_filter_lt_length_iff_exists.mpr ⟨id, drawn, by simp⟩
    omega

theorem modify_of_absent (absent : id ∉ stage.keys) (change : Sprite → Sprite) :
    stage.modify id change = stage := by
  have still : (stage.modify id change).sprites = stage.sprites := by
    refine (List.map_congr_left fun entry member => ?_).trans (List.map_id _)
    have other : entry.1 ≠ id := fun same => absent (same ▸ List.mem_map_of_mem member)
    exact Prod.ext rfl (if_neg other)
  show { stage with sprites := (stage.modify id change).sprites } = stage
  rw [still]

theorem destroy_of_absent (absent : id ∉ stage.keys) (undrawn : id ∉ stage.order) :
    (stage.destroy id).2 = stage := by
  have others : (stage.destroy id).2.sprites = stage.sprites :=
    List.filter_eq_self.mpr fun entry member =>
      decide_eq_true fun same => absent (same ▸ List.mem_map_of_mem member)
  show { (stage.detach id).2 with sprites := (stage.destroy id).2.sprites } = stage
  rw [others, detach_of_not_mem undrawn]

/-- **A sprite is gone for good**: it is not on the stage, it is neither drawn nor met by a pointer, it
cannot be attached, and whatever request names it changes nothing. -/
structure Lost (stage : Stage) (id : SpriteId) : Prop where
  absent : stage.find? id = none
  undrawn : id ∉ stage.drawn.map Prod.fst
  unmet : ∀ x y, stage.hitTest x y ≠ some id
  refused : (stage.respond (.attach id)).1 = .whether false
  still : ∀ request : Request, request.target? = some id → stage.serve request = stage

theorem Gone.lost (gone : stage.Gone id) (valid : stage.Valid) : stage.Lost id := by
  have undrawn : id ∉ stage.order := fun drawn => gone.absent (valid.drawn id drawn)
  have cannot : ¬ stage.canAttach id = true := fun can => gone.absent (canAttach_iff.mp can).1
  refine ⟨Motion.find?_eq_none_iff.mpr gone.absent, valid.map_drawn ▸ undrawn,
    fun _ _ met => undrawn (mem_order_of_hitTest met), ?_, fun request names => ?_⟩
  · exact congrArg (fun answer : Bool × Stage => Answer.whether answer.1) (attach_of_not_canAttach cannot)
  · cases request with
    | create sprite => cases names
    | attach other =>
      cases names
      exact congrArg Prod.snd (attach_of_not_canAttach cannot)
    | detach other =>
      cases names
      exact detach_of_not_mem undrawn
    | destroy other =>
      cases names
      exact destroy_of_absent gone.absent undrawn
    | change other change =>
      cases names
      exact modify_of_absent gone.absent change
    | resize viewport => cases names

/-- A sprite that is taken off the stage is gone. -/
theorem Valid.gone_destroy (valid : stage.Valid) (live : stage.isLive id = true) :
    (stage.destroy id).2.Gone id where
  absent member := (mem_keys_destroy.mp member).2 rfl
  given := valid.issued id (isLive_iff.mp live)

/-! ### All stages -/

/-- **What is drawn agrees with what is on the stage**, and goes on to do so. -/
structure Consistent (stage : Stage) : Prop where
  /-- What is drawn is drawn once. -/
  once : stage.order.Nodup
  /-- What is drawn is on the stage. -/
  live : ∀ id ∈ stage.order, stage.isLive id = true
  /-- Every handle in the order is drawn. -/
  drawn : stage.drawn.map Prod.fst = stage.order
  /-- A sprite on the stage that is not drawn yet is drawn on top of all others when it is attached. -/
  attached : ∀ id sprite, stage.find? id = some sprite → id ∉ stage.order →
    stage.respond (.attach id) = (.whether true, { stage with order := stage.order ++ [id] }) ∧
      (stage.attach id).2.drawn = stage.drawn ++ [(id, sprite)]
  /-- Else to attach it changes nothing. -/
  refused : ∀ id, ¬ (stage.isLive id = true ∧ id ∉ stage.order) →
    stage.respond (.attach id) = (.whether false, stage)
  /-- A sprite that is detached stays on the stage, and the others are drawn in their order. The answer
  says whether it was drawn. -/
  detached : ∀ id, stage.respond (.detach id) = (.whether (decide (id ∈ stage.order)), (stage.detach id).2) ∧
    (stage.detach id).2.drawn = stage.drawn.filter (fun item => item.1 ≠ id) ∧
      ∀ other, (stage.detach id).2.find? other = stage.find? other
  /-- A sprite that is taken off the stage is the only one, and the others are drawn in their order. -/
  destroyed : ∀ id, (stage.destroy id).2.drawn = stage.drawn.filter (fun item => item.1 ≠ id) ∧
    ∀ other, (stage.destroy id).2.find? other = if other = id then none else stage.find? other
  /-- It is gone for good, whatever is asked later. -/
  lost : ∀ id, stage.isLive id = true → ∀ later, ((stage.destroy id).2.run later).Lost id

theorem Valid.consistent (valid : stage.Valid) : stage.Consistent where
  once := valid.once
  live id drawn := isLive_iff.mpr (valid.drawn id drawn)
  drawn := valid.map_drawn
  attached id sprite found free := by
    have can := canAttach_of_find? found free
    have after : stage.attach id = (true, { stage with order := stage.order ++ [id] }) := if_pos can
    exact ⟨congrArg (fun answer : Bool × Stage => (Answer.whether answer.1, answer.2)) after,
      drawn_attach found free⟩
  refused id cannot := by
    have no : ¬ stage.canAttach id = true := fun can =>
      cannot ((canAttach_iff.mp can).imp_left isLive_iff.mpr)
    exact congrArg (fun answer : Bool × Stage => (Answer.whether answer.1, answer.2))
      (attach_of_not_canAttach no)
  detached id := by
    refine ⟨?_, stage.drawn_detach id, fun _ => rfl⟩
    exact congrArg (fun holds => (Answer.whether holds, (stage.detach id).2)) (stage.fewer_detach id)
  destroyed id := ⟨stage.drawn_destroy id, stage.find?_destroy id⟩
  lost id live later := by
    -- its handle was given out, and sprites come only under new ones
    have gone := (valid.gone_destroy live).follow ((stage.destroy id).2.follows_run later)
    exact gone.lost ((valid.destroy id).run later)

/-- **What is drawn stays consistent with what is on the stage**, whatever is asked of a stage and with
whatever handles. -/
theorem draws_consistently (viewport : Viewport) (requests : List Request) :
    ((empty viewport).run requests).Consistent :=
  ((valid_empty viewport).run requests).consistent

end Storybook.Stage
