/-
**A pointer meets the character that is on top.**

All through a play a sprite can be touched exactly if it is that of a character with a chain for
touches, and then it glows. So whatever sprite a pointer meets has an owner, and only one, and to lift
the pointer there is to touch this character.

* `Stage.hitTest_eq`: a pointer meets the topmost of the sprites that can be touched there;
* `Answers`, `Lit`, `lasts_lit`: what can be touched, and glows, are the characters that answer;
* `Scene.Kept.owner`: a sprite has one owner;
* `Player.Routes`, `Player.routes_run`: where the touches of a pointer go.
-/

import Storybook.Proofs.Arrivals
import Storybook.Proofs.Casts
import Storybook.Proofs.Holding.Players

namespace Storybook

/-! ### What a pointer meets -/

namespace Stage

variable {stage : Stage} {x y : Single} {id : SpriteId}

/-- Whether a sprite can be touched at a point: if it is interactive, not faded away, and there. -/
theorem isTouchable_iff : stage.isTouchable x y id = true ↔ ∃ sprite, stage.find? id = some sprite ∧
    (sprite.interactive && 0 < sprite.alpha && sprite.contains x y) = true := by
  unfold isTouchable
  cases stage.find? id <;> simp

/-- **A pointer meets the last in the order of drawing** of the sprites that can be touched there. -/
theorem hitTest_eq (stage : Stage) (x y : Single) :
    stage.hitTest x y = ((stage.drawn.filter fun (_, sprite) =>
      sprite.interactive && 0 < sprite.alpha && sprite.contains x y).getLast?).map Prod.fst := by
  have touchable : ∀ order : List SpriteId,
      ((order.filterMap fun id => (stage.find? id).map fun sprite => (id, sprite)).filter
        fun (_, sprite) => sprite.interactive && 0 < sprite.alpha && sprite.contains x y).map Prod.fst =
        order.filter (stage.isTouchable x y) := by
    intro order
    induction order with
    | nil => rfl
    | cons id rest ih =>
      rw [List.filterMap_cons, List.filter_cons, ← ih]
      unfold isTouchable
      cases stage.find? id with
      | none => rfl
      | some sprite =>
        dsimp only [Option.map_some]
        rw [List.filter_cons]
        split <;> rfl
  rw [← List.getLast?_map, drawn, touchable, List.getLast?_filter]
  rfl

end Stage

/-! ### What can be touched -/

/-- A character of a cast has a sprite and a chain for touches. -/
def Answers (cast : List Character) (id : SpriteId) : Prop :=
  ∃ character ∈ cast, character.sprite = some id ∧ character.bindings.touch.isSome

/-- **The sprites that can be touched, and glow, are those of the characters that answer.** All handles
have been given out. -/
structure Lit (binder : Binder) (cast : List Character) (world : World) : Prop where
  issued : ∀ id look, world.stage.look? id = some look → id.number ≤ world.stage.issued
  owned : ∀ character ∈ cast, ∀ id, character.sprite = some id → id.number ≤ world.stage.issued
  answers : ∀ id look, world.stage.look? id = some look → (look.1 = true ↔ Answers cast id)
  glows : ∀ id look, world.stage.look? id = some look → look.1 = true → look.2 = some binder.glow

section

variable {binder : Binder} {cast others front back : List Character} {character after : Character}
  {world last : World} {id : SpriteId}

/-- One character of a cast answers, or another does. -/
theorem answers_middle : Answers (front ++ character :: back) id ↔
    (character.sprite = some id ∧ character.bindings.touch.isSome) ∨ Answers (front ++ back) id := by
  simp only [Answers, List.mem_append, List.mem_cons, or_and_right, exists_or, exists_eq_left]
  rw [or_left_comm]

/-- Where no character has a sprite, none answers. -/
theorem not_answers (absent : ∀ character ∈ cast, character.sprite = none) : ¬ Answers cast id := by
  rintro ⟨character, member, stands, _⟩
  cases (absent character member).symm.trans stands

/-- Another cast that answers for the same sprites. -/
theorem Lit.recast (lit : Lit binder cast world)
    (owned : ∀ character ∈ others, ∀ id, character.sprite = some id → id.number ≤ world.stage.issued)
    (same : ∀ id, Answers others id ↔ Answers cast id) : Lit binder others world :=
  ⟨lit.issued, owned, fun id look worn => (lit.answers id look worn).trans (same id).symm, lit.glows⟩

/-- What is done without anything coming onto the stage leaves this as it is. -/
theorem Lit.abide (lit : Lit binder cast world) (abides : world.Abides last) :
    Lit binder cast last where
  issued id look worn := by
    rw [abides.stage.issued]
    exact lit.issued id look (abides.stage.looks id look worn)
  owned character member id stands := by
    rw [abides.stage.issued]
    exact lit.owned character member id stands
  answers id look worn := lit.answers id look (abides.stage.looks id look worn)
  glows id look worn := lit.glows id look (abides.stage.looks id look worn)

/-- A sprite that is new on the stage is nobody's. -/
theorem Lit.not_answers_new (lit : Lit binder cast world) :
    ¬ Answers cast ⟨world.stage.issued + 1⟩ := by
  rintro ⟨character, member, stands, _⟩
  exact Nat.not_succ_le_self _ (lit.owned character member _ stands)

/-- No sprite has the handle that is given out next. -/
theorem Lit.new (lit : Lit binder cast world) : world.stage.look? ⟨world.stage.issued + 1⟩ = none := by
  cases worn : world.stage.look? ⟨world.stage.issued + 1⟩ with
  | none => rfl
  | some look => exact absurd (lit.issued _ look worn) (Nat.not_succ_le_self _)

/-- A picture cannot be touched. -/
theorem Lit.picture (lit : Lit binder cast world) (name : String) (texture : Asset.Texture) :
    Lit binder cast (world.createSprite (Sprite.ofTexture name texture)).2 := by
  have looks : ∀ id look, (world.createSprite (Sprite.ofTexture name texture)).2.stage.look? id =
      some look → (id = ⟨world.stage.issued + 1⟩ ∧ look = (false, none)) ∨
        world.stage.look? id = some look := by
    intro id look worn
    by_cases new : id = ⟨world.stage.issued + 1⟩
    · subst new
      exact .inl ⟨rfl, Option.some.inj (worn.symm.trans (Stage.look?_create_self _ lit.new))⟩
    · exact .inr ((Stage.look?_create_of_ne _ _ new).symm.trans worn)
  refine ⟨fun id look worn => ?_, fun character member id stands => ?_, fun id look worn => ?_,
    fun id look worn touchable => ?_⟩
  · rcases looks id look worn with ⟨rfl, rfl⟩ | old
    · exact Nat.le_refl _
    · exact Nat.le_succ_of_le (lit.issued id look old)
  · exact Nat.le_succ_of_le (lit.owned character member id stands)
  · rcases looks id look worn with ⟨rfl, rfl⟩ | old
    · exact ⟨nofun, fun answers => absurd answers lit.not_answers_new⟩
    · exact lit.answers id look old
  · rcases looks id look worn with ⟨rfl, rfl⟩ | old
    · cases touchable
    · exact lit.glows id look old touchable

/-- A character that has gone has no sprite that could be touched. -/
theorem look?_disappear (stands : character.sprite = some id) :
    (character.disappear world).2.stage.look? id = none := by
  rw [Character.stage_disappear, stands, Stage.look?, Stage.find?_destroy, if_pos rfl]
  rfl

/-- A character that leaves the stage takes its sprite along. -/
theorem Lit.leave (lit : Lit binder (front ++ character :: back) world) :
    Lit binder (front ++ (character.disappear world).1 :: back) (character.disappear world).2 := by
  have left := lit.abide (character.abides_disappear world)
  have absent : (character.disappear world).1.sprite = none := rfl
  refine ⟨left.issued, forall_mem_middle left.owned fun id stands => ?_, fun id look worn => ?_,
    left.glows⟩
  · cases absent.symm.trans stands
  · -- A sprite that is still there is another one, for which other characters answer as before.
    have other : character.sprite ≠ some id := fun stands =>
      nomatch (look?_disappear stands).symm.trans worn
    rw [left.answers id look worn, answers_middle, answers_middle, absent]
    exact or_congr_left ⟨fun answers => absurd answers.1 other, nofun⟩

/-- A character that enters the stage can be touched, and glows, if it answers. -/
theorem Lit.enter (lit : Lit binder (front ++ character :: back) world)
    (offstage : character.sprite = none) (texture : Asset.Texture) :
    Lit binder (front ++ (character.enterStage binder texture world).1 :: back)
      (character.enterStage binder texture world).2 := by
  have arrives := character.arrives_enterStage binder texture world
  generalize character.enterStage binder texture world = entered at arrives ⊢
  have answers (id : SpriteId) : Answers (front ++ entered.1 :: back) id ↔
      (id = ⟨world.stage.issued + 1⟩ ∧ entered.1.bindings.touch.isSome) ∨
        Answers (front ++ character :: back) id := by
    rw [answers_middle, answers_middle, arrives.sprite, offstage, Option.some_inj, eq_comm]
    simp
  -- The new sprite looks as its chains were bound, and all others are as they were.
  have looks : ∀ id look, entered.2.stage.look? id = some look →
      (id = ⟨world.stage.issued + 1⟩ ∧ look = binder.look entered.1.bindings) ∨
        id ≠ ⟨world.stage.issued + 1⟩ ∧ world.stage.look? id = some look := by
    intro id look worn
    by_cases new : id = ⟨world.stage.issued + 1⟩
    · exact .inl ⟨new, arrives.own lit.new look (new ▸ worn)⟩
    · exact .inr ⟨new, arrives.others id look new worn⟩
  have grown : ∀ other ∈ front ++ character :: back, ∀ id, other.sprite = some id →
      id.number ≤ entered.2.stage.issued := by
    intro other member id stands
    rw [arrives.issued]
    exact Nat.le_succ_of_le (lit.owned other member id stands)
  refine ⟨fun id look worn => ?_, forall_mem_middle grown fun id stands => ?_,
    fun id look worn => ?_, fun id look worn touchable => ?_⟩
  · rw [arrives.issued]
    rcases looks id look worn with ⟨rfl, _⟩ | ⟨_, old⟩
    · exact Nat.le_refl _
    · exact Nat.le_succ_of_le (lit.issued id look old)
  · have new := Option.some.inj (arrives.sprite.symm.trans stands)
    exact new ▸ Nat.le_of_eq arrives.issued.symm
  · rw [answers]
    rcases looks id look worn with ⟨rfl, rfl⟩ | ⟨other, old⟩
    · rw [Binder.look_fst]
      exact ⟨fun bound => .inl ⟨rfl, bound⟩, fun either =>
        either.elim And.right fun answers => absurd answers lit.not_answers_new⟩
    · rw [lit.answers id look old]
      exact (or_iff_right fun new => other new.1).symm
  · rcases looks id look worn with ⟨rfl, rfl⟩ | ⟨_, old⟩
    · exact Binder.look_snd touchable
    · exact lit.glows id look old touchable

end

/-- **What can be touched are the characters that answer**, all through a play. -/
theorem lasts_lit (document : Story.Document) (options : SceneOptions) :
    Lasts document options (Lit (document.binder options)) where
  abides abides lit := lit.abide abides
  pictures name texture lit := lit.picture name texture
  changes bindings same lit := by
    refine lit.recast (forall_mem_middle lit.owned fun id stands => ?_) fun id => ?_
    · exact lit.owned _ (List.mem_append_right _ List.mem_cons_self) id stands
    · rw [answers_middle, answers_middle, same]
  leaves lit := lit.leave
  enters offstage _ lit := lit.enter offstage _
  begins listed lit := by
    refine lit.recast (fun character member id stands => ?_) fun id => ?_
    · cases (Scene.sprite_cast member).symm.trans stands
    · exact ⟨fun answers => absurd answers (not_answers fun _ => Scene.sprite_cast), nofun⟩
  ends gone lit := lit.recast nofun fun id => ⟨nofun, fun answers => absurd answers (not_answers gone)⟩

/-! ### Where a pointer goes -/

namespace Scene

variable {lost : Losses} {loose : List Loose} {scene : Scene} {world : World} {id : SpriteId}
  {character other : Character}

/-- **A sprite has one owner.** -/
theorem Kept.owner (kept : scene.Kept lost loose world) (member : character ∈ scene.characters)
    (stands : character.sprite = some id) (inside : other ∈ scene.characters)
    (too : other.sprite = some id) : other = character :=
  Settled.eq_of_nodup_spritesOf kept.settled.sprites other inside character member id too stands

/-- So it is the one that is found. -/
theorem Kept.owner?_eq (kept : scene.Kept lost loose world) (member : character ∈ scene.characters)
    (stands : character.sprite = some id) : scene.owner? id = some character.id := by
  unfold owner?
  cases found : scene.characters.find? fun character => character.sprite = some id with
  | none => simpa [stands] using List.find?_eq_none.mp found character member
  | some other =>
    have too : other.sprite = some id := of_decide_eq_true (List.find?_some found :)
    rw [kept.owner member stands (List.mem_of_find?_eq_some found) too]
    rfl

end Scene

namespace Player

/-- **Where the touches of a pointer go.** -/
structure Routes (document : Story.Document) (player : Player) : Prop where
  /-- A sprite can be touched exactly if it is that of a character of the scene in play which has a
  chain for touches. -/
  interactive : ∀ id sprite, player.world.stage.find? id = some sprite →
    (sprite.interactive = true ↔ ∃ scene, player.scene = some scene ∧
      ∃ character ∈ scene.characters, character.sprite = some id ∧ character.bindings.touch.isSome)
  /-- It glows in the style of the story then. -/
  glows : ∀ id sprite, player.world.stage.find? id = some sprite → sprite.interactive = true →
    sprite.glow = some ⟨document.style.distance, document.style.strength, document.style.colour⟩
  /-- A pointer meets the last sprite in the order of drawing that can be touched, is not faded away and
  contains the point. -/
  meets : ∀ x y, player.world.stage.hitTest x y = ((player.world.stage.drawn.filter fun (_, sprite) =>
    sprite.interactive && 0 < sprite.alpha && sprite.contains x y).getLast?).map Prod.fst
  /-- It has an effect exactly if it meets a sprite. -/
  answers : ∀ x y, (player.pointerUpAt x y).1 = (player.world.stage.hitTest x y).isSome
  /-- To lift it over a sprite is to touch the character whose sprite it is, the only one. -/
  touches : ∀ x y id, player.world.stage.hitTest x y = some id →
    ∃ scene, player.scene = some scene ∧ ∃ character ∈ scene.characters, character.sprite = some id ∧
      (∀ other ∈ scene.characters, other.sprite = some id → other = character) ∧
        player.pointerUpAt x y = player.touch character.id
  /-- Where it meets none, nothing happens. -/
  misses : ∀ x y, player.world.stage.hitTest x y = none → player.pointerUpAt x y = (false, player)

variable {document : Story.Document} {options : SceneOptions} {lost : Losses}
  {player : Player} {scene : Scene} {character : Character} {x y : Single} {id : SpriteId}

theorem answers_cast : Answers player.cast id ↔ ∃ scene, player.scene = some scene ∧
    ∃ character ∈ scene.characters, character.sprite = some id ∧ character.bindings.touch.isSome := by
  unfold cast
  cases player.scene with
  | none => exact ⟨nofun, nofun⟩
  | some scene => exact ⟨fun answers => ⟨scene, rfl, answers⟩, fun ⟨_, rfl, answers⟩ => answers⟩

/-- What a scene answers alike, the player answers alike. -/
theorem askScene_congr {change other : Scene → World → Bool × Scene × World}
    (current : player.scene = some scene)
    (same : change scene player.world = other scene player.world) :
    player.askScene change = player.askScene other := by
  unfold askScene
  rw [current]
  dsimp only
  rw [same]

/-- To lift a pointer over the sprite of a character is to touch it. -/
theorem pointerUpAt_eq (current : player.scene = some scene) (kept : scene.Kept lost [] player.world)
    (met : player.world.stage.hitTest x y = some id) (member : character ∈ scene.characters)
    (stands : character.sprite = some id) :
    player.pointerUpAt x y = player.touch character.id := by
  refine askScene_congr current ?_
  unfold Scene.pointerUpAt Scene.pointerUp
  rw [met]
  dsimp only
  rw [kept.owner?_eq member stands]

/-- To touch a character has an effect if it has a sprite and a chain for touches. -/
theorem touch_fst (current : player.scene = some scene) (active : scene.state = .active)
    (kept : scene.Kept lost [] player.world) (member : character ∈ scene.characters)
    (stands : character.sprite = some id) (bound : character.bindings.touch.isSome) :
    (player.touch character.id).1 = true := by
  obtain ⟨chain, bound⟩ := Option.isSome_iff_exists.mp bound
  have answers : (character.touch player.world).1 = true := by
    unfold Character.touch
    rw [stands, bound]
  unfold touch askScene Scene.touch
  rw [current]
  dsimp only
  rw [if_pos active, kept.numbered.found member]
  exact answers

/-- Where a pointer meets nothing, it has no effect. -/
theorem pointerUpAt_none (met : player.world.stage.hitTest x y = none) :
    player.pointerUpAt x y = (false, player) := by
  cases current : player.scene with
  | none =>
    unfold pointerUpAt askScene
    rw [current]
  | some scene =>
    have idle : scene.pointerUpAt x y player.world = (false, scene, player.world) := by
      unfold Scene.pointerUpAt
      rw [met]
    unfold pointerUpAt askScene
    rw [current]
    dsimp only
    rw [idle, ← current]

theorem routes_of_lit (upholds : player.Upholds document options (Lit (document.binder options)))
    (kept : player.Kept lost) : player.Routes document := by
  have lit := upholds.cast
  have worn {id : SpriteId} {sprite : Sprite} (found : player.world.stage.find? id = some sprite) :
      player.world.stage.look? id = some sprite.look := congrArg (Option.map Sprite.look) found
  have owned {id : SpriteId} {sprite : Sprite} (found : player.world.stage.find? id = some sprite) :=
    (lit.answers id sprite.look (worn found)).trans answers_cast
  -- The sprite that a pointer meets can be touched, so that a character answers for it.
  have hit {x y : Single} {id : SpriteId} (met : player.world.stage.hitTest x y = some id) :
      ∃ scene, player.scene = some scene ∧ scene.state = .active ∧ scene.Kept lost [] player.world ∧
        ∃ character ∈ scene.characters, character.sprite = some id ∧
          character.bindings.touch.isSome := by
    obtain ⟨sprite, found, offers⟩ := Stage.isTouchable_iff.mp (List.find?_some met :)
    have touchable : sprite.interactive = true := by simp_all
    obtain ⟨scene, current, answers⟩ := (owned found).mp touchable
    cases kept with
    | waiting waits => cases waits.scene.symm.trans current
    | playing other shows active kept =>
      cases shows.current.symm.trans current
      exact ⟨scene, current, active, kept, answers⟩
  constructor
  case interactive => exact fun id sprite found => owned found
  case glows => exact fun id sprite found touchable => lit.glows id _ (worn found) touchable
  case meets => exact fun x y => player.world.stage.hitTest_eq x y
  case answers =>
    intro x y
    cases met : player.world.stage.hitTest x y with
    | none => rw [pointerUpAt_none met]; rfl
    | some id =>
      obtain ⟨scene, current, active, kept, character, member, stands, bound⟩ := hit met
      rw [pointerUpAt_eq current kept met member stands]
      exact touch_fst current active kept member stands bound
  case touches =>
    intro x y id met
    obtain ⟨scene, current, active, kept, character, member, stands, bound⟩ := hit met
    exact ⟨scene, current, character, member, stands, fun _ inside too =>
      kept.owner member stands inside too, pointerUpAt_eq current kept met member stands⟩
  case misses => exact fun x y met => pointerUpAt_none met

/-- **A pointer meets the character that is on top**, whatever is done with the player, and in whichever
order. -/
theorem routes_run (document : Story.Document) (resources : Asset.Resources) (audio : Audio)
    (viewport : Viewport) (options : SceneOptions) (operations : List Operation) :
    ((ofResources document resources audio viewport options).run operations).Routes document := by
  have dark : Lit (document.binder options) []
      (ofResources document resources audio viewport options).world :=
    ⟨nofun, nofun, nofun, nofun⟩
  exact routes_of_lit ((lasts_lit document options).run dark operations)
    (kept_run_any operations (kept_ofResources document resources audio viewport options))

/-- A story of two bells, one partly over the other, and of a rope before both. -/
def belfryStory : Story.Document where
  style := .standard
  splash := ⟨"church.png", "church.mp3"⟩
  start := "belfry"
  scenes :=
    [("belfry", ⟨"belfry.png", [], [⟨"Low", "bell.png", ⟨0, 0⟩, none, [("touch", [.spin 1])]⟩,
      ⟨"High", "bell.png", ⟨32, 0⟩, none, [("touch", [.spin 2])]⟩,
      ⟨"Rope", "rope.png", ⟨40, 0⟩, none, [("onload", [.spin 1])]⟩]⟩)]

/-- Its pictures. -/
def belfryAssets : Asset.Resources :=
  ⟨[("belfry.png", .texture ⟨640, 480⟩), ("bell.png", .texture ⟨64, 64⟩),
    ("rope.png", .texture ⟨16, 480⟩)]⟩

/-- Where all three are, the pointer touches the bell on top, and the other one when the sprite of that
is taken away. -/
theorem routes_belfry :
    let player := (ofResources belfryStory belfryAssets (.silent 3000000000 []) ⟨800, 600⟩
      .standard).run [.enterScene "belfry"]
    let after := player.destroySprite ⟨3⟩
    player.Routes belfryStory ∧ player.world.stage.order = [⟨1⟩, ⟨2⟩, ⟨3⟩, ⟨4⟩] ∧
      player.world.stage.hitTest 48 10 = some ⟨3⟩ ∧ player.pointerUpAt 48 10 = player.touch ⟨1⟩ ∧
      after.world.stage.hitTest 48 10 = some ⟨2⟩ ∧ after.pointerUpAt 48 10 = after.touch ⟨0⟩ := by
  intro player after
  exact ⟨routes_run belfryStory belfryAssets _ _ _ [.enterScene "belfry"], by decide +kernel⟩

end Player

end Storybook
