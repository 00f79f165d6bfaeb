/-
**A story that is written is read back.**

Every part of a story is written with all its fields, and every field is read back as it was. Only
of an unresolved effect just the name is written, so what it is read back as depends on the name
alone.

* `Effect.reread`, `Effect.inDocument_node`: what becomes of an effect that is written and read again;
* `Effect.stays_unresolved_iff`: which unresolved effects stay unresolved;
* `Document.Proper`, `Document.decode_yields`: what every story that was read is like;
* `Document.ofNode_node`: a story is read back with its effects read again;
* `Document.reads_back`: without unresolved effects it is the same story.
-/

import Storybook.Proofs.Decoding

namespace Storybook.Story

open Storybook.Data

/-! ### Effects -/

theorem settle_text (text : String) : (Node.text text).settle = .ok (.text text) :=
  rfl

theorem settle_single (x : Single) : (Node.single x).settle = .ok (.single x) := by
  rw [Node.single]
  split <;> rfl

theorem settle_pause (pause : Option Nat) :
    (optionalNode Node.natural pause).settle = .ok (optionalNode Node.natural pause) := by
  cases pause <;> rfl

/-- An object of plain values is settled by sorting its members. -/
theorem settle_ofMembers {members : List (String × Node)}
    (plain : ∀ member ∈ members, member.2.settle = .ok member.2) :
    (Node.ofMembers members).settle = .ok (.ofMembers (members.foldl
      (fun table member => Table.insert member.1 member.2 table) [])) := by
  have settled (table : Table Node) : (Members.ofList members).settle table =
      .ok (members.foldl (fun table member => Table.insert member.1 member.2 table) table) := by
    induction members generalizing table with
    | nil => rfl
    | cons member rest ih =>
      rw [Members.ofList, Members.settle, plain member List.mem_cons_self]
      exact ih (fun other inside => plain other (List.mem_cons_of_mem _ inside)) _
  rw [Node.ofMembers, Node.settle, settled]
  rfl

theorem Direction.decode_name (direction : Direction) :
    Direction.decode (.text direction.name) = .ok direction := by
  cases direction <;> rfl

theorem Millis.decode_node (pause : Option Nat) :
    Millis.decode (optionalNode Node.natural pause) = .ok pause := by
  cases pause with
  | none => rfl
  | some millis =>
    show (if (0 : Int) ≤ millis then Except.ok (some (Int.toNat millis))
      else throw (Fault.badMillis (Double.ofInt millis))) = _
    rw [if_pos (Int.natCast_nonneg millis), Int.toNat_natCast]

namespace Effect

variable {effect : Effect}

/-- The numbers of an effect. -/
def singles : Effect → List Single
  | move speed _ _ => [speed]
  | bounce speed => [speed]
  | fadeOut speed => [speed]
  | spin speed => [speed]
  | _ => []

/-- Whether an effect made sense when it was read. -/
def isResolved : Effect → Bool
  | unresolved _ _ => false
  | _ => true

/-- **What becomes of an effect that is written and read again.** Of an unresolved effect only the
name is left. -/
def reread : Effect → Effect
  | unresolved name _ => ofNode (.ofMembers [("name", .text name)])
  | effect => effect

theorem reread_of_isResolved (resolved : effect.isResolved) : effect.reread = effect := by
  cases effect with
  | unresolved => cases resolved
  | _ => rfl

/-- An effect whose members are, once sorted, those of an object that is read as it. -/
theorem inDocument_of_sorted {members : List (String × Node)} (name : String)
    (sorted : List (String × Node)) (plain : ∀ member ∈ members, member.2.settle = .ok member.2)
    (order : members.foldl (fun table member => Table.insert member.1 member.2 table) [] = sorted)
    (named : (Members.ofList sorted).find? "name" = some (.text name))
    (read : ofName name (.ofMembers sorted) = .ok effect) :
    inDocument (.ofMembers members) = .ok effect := by
  rw [inDocument, settle_ofMembers plain, order]
  show Except.ok (ofNode (.ofMembers sorted)) = _
  rw [ofNode, Node.ofMembers, decode, named]
  simp only [ofTag]
  rw [← Node.ofMembers, read]

/-- The parameters of an effect are read member by member. -/
theorem parameters_ofMembers {α : Type} {title : String} {fields : List (RecordField α)} {blank : α}
    (members : List (String × Node)) (once : (members.map Prod.fst).Nodup)
    (complete : ∀ field ∈ fields, field.required → field.name ∈ members.map Prod.fst) :
    parameters title fields blank (.ofMembers members) =
      members.foldlM (Decode.put fields) blank :=
  Decode.record_ofMembers members once complete

/-- An effect whose single parameter is its speed. -/
theorem inDocument_of_speed {title name : String} {required : Bool} {blank x : Single}
    {make : Single → Effect} (finite : x.isFinite)
    (known : ∀ node, ofName name node = make <$> parameters title [speed required] blank node) :
    inDocument (.ofMembers [("name", .text name), ("speed", .single x)]) = .ok (make x) := by
  refine inDocument_of_sorted name [("name", .text name), ("speed", .single x)] ?_ ?_ rfl ?_
  · simp [settle_text, settle_single]
  · simp only [List.foldl, Table.insert, String.reduceLT, String.reduceEq, if_false]
  · rw [known, parameters_ofMembers]
    · simp only [List.foldlM, Decode.put, speed, List.find?, String.reduceEq, decide_false,
        decide_true, Decode.single_node finite]
      rfl
    · simp
    · simp [speed]

/-- **An effect in a document is read back**, its numbers being finite. -/
theorem inDocument_node (finite : ∀ x ∈ effect.singles, x.isFinite) :
    inDocument effect.node = .ok effect.reread := by
  cases effect with
  | audio sound =>
    refine inDocument_of_sorted "audio" [("name", .text "audio"), ("sound", .text sound)]
      ?_ ?_ rfl ?_
    · simp [settle_text]
    · simp only [List.foldl, Table.insert, String.reduceLT, String.reduceEq, if_false]
      rfl
    · rw [ofName, parameters_ofMembers]
      · rfl
      · simp
      · simp
  | move speed direction pause =>
    have finite := finite speed List.mem_cons_self
    refine inDocument_of_sorted "move" [("direction", .text direction.name),
      ("name", .text "move"), ("pause_in_ms", optionalNode .natural pause),
      ("speed", .single speed)] ?_ ?_ rfl ?_
    · simp [settle_text, settle_single, settle_pause]
    · simp only [List.foldl, Table.insert, String.reduceLT, String.reduceEq, if_false, if_true]
      rfl
    · rw [ofName, parameters_ofMembers]
      · simp [Decode.put, moveFields, Decode.single_node finite, Direction.decode_name,
          Millis.decode_node]
        rfl
      · simp
      · simp [moveFields]
  | bounce speed => exact inDocument_of_speed (finite speed List.mem_cons_self) fun _ => rfl
  | transition image =>
    refine inDocument_of_sorted "transition" [("image", .text image), ("name", .text "transition")]
      ?_ ?_ rfl ?_
    · simp [settle_text]
    · simp only [List.foldl, Table.insert, String.reduceLT, String.reduceEq, if_false, if_true]
      rfl
    · rw [ofName, parameters_ofMembers]
      · rfl
      · simp
      · simp
  | fadeOut speed => exact inDocument_of_speed (finite speed List.mem_cons_self) fun _ => rfl
  | spin speed => exact inDocument_of_speed (finite speed List.mem_cons_self) fun _ => rfl
  | unresolved name fault => rfl

/-- **An unresolved effect stays unresolved exactly where its name alone does not do**: the single
parameter of a bounce and that of a spin may be left out, so these are effects again, with the
values that stand for what is left out. Every other name is unresolved again. -/
theorem stays_unresolved_iff (name : String) (fault : Fault) :
    ((∃ again, inDocument (unresolved name fault).node = .ok (unresolved name again)) ↔
      name ≠ "bounce" ∧ name ≠ "spin") ∧
    (name = "bounce" → inDocument (unresolved name fault).node = .ok (bounce 0)) ∧
    (name = "spin" → inDocument (unresolved name fault).node = .ok (spin (Single.narrow 0.1))) := by
  have bounces : inDocument (unresolved "bounce" fault).node = .ok (bounce 0) := rfl
  have spins : inDocument (unresolved "spin" fault).node = .ok (spin (Single.narrow 0.1)) := rfl
  refine ⟨⟨?alone, ?again⟩, fun named => named ▸ bounces, fun named => named ▸ spins⟩
  case alone =>
    rintro ⟨again, read⟩
    constructor
    · rintro rfl
      rw [bounces] at read
      cases read
    · rintro rfl
      rw [spins] at read
      cases read
  case again =>
    rintro ⟨noBounce, noSpin⟩
    have failed : ∃ again, ofName name (.ofMembers [("name", .text name)]) = .error again := by
      unfold ofName
      split
      case h_1 => exact ⟨_, rfl⟩
      case h_2 => exact ⟨_, rfl⟩
      case h_3 => exact absurd rfl noBounce
      case h_4 => exact ⟨_, rfl⟩
      case h_5 => exact ⟨_, rfl⟩
      case h_6 => exact absurd rfl noSpin
      case h_7 => exact ⟨_, rfl⟩
    obtain ⟨again, failed⟩ := failed
    refine ⟨again, ?_⟩
    show Except.ok (ofNode (.ofMembers [("name", .text name)])) = _
    have decoded : decode (.ofMembers [("name", .text name)]) = .error again := failed
    rw [ofNode, decoded]
    rfl

/-- A bounce whose speed is a text is unresolved, and it bounces after it was written and read
again. -/
theorem bounces_again :
    let node : Node := .ofMembers [("name", .text "bounce"), ("speed", .text "fast")]
    let skipped := unresolved "bounce" (.wrongType (.text "fast") "f32")
    inDocument node = .ok skipped ∧ inDocument skipped.node = .ok (bounce 0) ∧
      ¬ ∃ again, inDocument skipped.node = .ok (unresolved "bounce" again) := by
  intro node skipped
  have skips : inDocument node = .ok skipped := by
    rfl
  obtain ⟨stays, bounces, -⟩ := stays_unresolved_iff "bounce" (.wrongType (.text "fast") "f32")
  exact ⟨skips, bounces rfl, fun again => (stays.1 again).1 rfl⟩

end Effect

/-! ### Records -/

/-- The numbers of a style. -/
def Style.singles (style : Style) : List Single :=
  [style.distance, style.strength]

theorem Colour.decode_node {colour : Nat} (short : colour < Colour.limit) :
    Colour.decode (.natural colour) = .ok colour := by
  have bounds : (0 : Int) ≤ colour ∧ (colour : Int) < Colour.limit :=
    ⟨Int.natCast_nonneg colour, Int.ofNat_lt.2 short⟩
  have settled : (Node.natural colour).settle = .ok (.number (.whole colour)) := rfl
  rw [Colour.decode, settled, bind_eq_ok]
  refine ⟨_, rfl, ?_⟩
  simp only
  rw [if_pos bounds]
  rfl

theorem Style.decode_node {style : Style} (finite : ∀ x ∈ style.singles, x.isFinite)
    (short : style.colour < Colour.limit) : Style.decode style.node = .ok style := by
  have distance : Decode.single (.single style.distance) = .ok style.distance :=
    Decode.single_node (finite _ (by simp [singles]))
  have strength : Decode.single (.single style.strength) = .ok style.strength :=
    Decode.single_node (finite _ (by simp [singles]))
  rw [decode, node, Decode.record_ofMembers]
  · simp [Decode.put, fields, distance, strength, Colour.decode_node short]
    rfl
  · simp
  · simp [fields]

theorem Splash.decode_node (splash : Splash) : Splash.decode splash.node = .ok splash := by
  rw [decode, node, Decode.record_ofMembers]
  · rfl
  · simp
  · simp

theorem Sound.decode_node {sound : Sound} (finite : sound.volume.isFinite) :
    Sound.decode sound.node = .ok sound := by
  have volume := Decode.single_node finite
  have texts (value : Option String) :
      Decode.optional Decode.text (optionalNode Node.text value) = .ok value := by
    cases value <;> rfl
  rw [decode, node, Decode.record_ofMembers]
  · simp [Decode.put, fields, volume, texts, Millis.decode_node]
    rfl
  · simp
  · simp [fields]

/-- The numbers of a position. -/
def Position.singles (position : Position) : List Single :=
  [position.x, position.y]

theorem Position.decode_node {position : Position} (finite : ∀ x ∈ position.singles, x.isFinite) :
    Position.decode position.node = .ok position := by
  have x : Decode.single (.single position.x) = .ok position.x :=
    Decode.single_node (finite _ (by simp [singles]))
  have y : Decode.single (.single position.y) = .ok position.y :=
    Decode.single_node (finite _ (by simp [singles]))
  rw [decode, node, Decode.record_ofMembers]
  · simp [Decode.put, x, y]
    rfl
  · simp
  · simp

/-- The numbers of a scale. -/
def Scale.singles (scale : Scale) : List Single :=
  [scale.height, scale.width]

theorem Scale.decode_node {scale : Scale} (finite : ∀ x ∈ scale.singles, x.isFinite) :
    Scale.decode scale.node = .ok scale := by
  have height : Decode.single (.single scale.height) = .ok scale.height :=
    Decode.single_node (finite _ (by simp [singles]))
  have width : Decode.single (.single scale.width) = .ok scale.width :=
    Decode.single_node (finite _ (by simp [singles]))
  rw [decode, node, Decode.record_ofMembers]
  · simp [Decode.put, height, width]
    rfl
  · simp
  · simp

/-- The numbers of the settings of a character. -/
def CharacterSettings.singles (settings : CharacterSettings) : List Single :=
  settings.gravity :: settings.scale.toList.flatMap Scale.singles

theorem CharacterSettings.decode_node {settings : CharacterSettings}
    (finite : ∀ x ∈ settings.singles, x.isFinite) :
    CharacterSettings.decode settings.node = .ok settings := by
  have gravity : Decode.single (.single settings.gravity) = .ok settings.gravity :=
    Decode.single_node (finite _ List.mem_cons_self)
  have scale : Decode.optional Scale.decode (optionalNode Scale.node settings.scale) =
      .ok settings.scale := by
    refine Decode.optional_node (fun kept written => ?_) fun kept inside => ?_
    · cases written
    · refine Scale.decode_node fun x listed => finite x (List.mem_cons_of_mem _ ?_)
      exact List.mem_flatMap.2 ⟨kept, Option.mem_toList.2 inside, listed⟩
  rw [decode, node, Decode.record_ofMembers]
  · simp [Decode.put, gravity, scale, Decode.boolean]
    rfl
  · simp
  · simp

/-! ### Characters and scenes -/

namespace Character

variable {character : Character}

/-- The numbers of a character. -/
def singles (character : Character) : List Single :=
  character.position.singles ++ character.settings.toList.flatMap CharacterSettings.singles ++
    character.actions.flatMap fun (_, effects) => effects.flatMap Effect.singles

/-- The effects of a character under all its keys. -/
def effects (character : Character) : List Effect :=
  character.actions.flatMap fun (_, effects) => effects

/-- A character with all its effects changed. -/
def mapEffects (change : Effect → Effect) (character : Character) : Character :=
  { character with
    actions := character.actions.map fun (key, effects) => (key, effects.map change) }

theorem mapEffects_eq_self {change : Effect → Effect}
    (same : ∀ effect ∈ character.effects, change effect = effect) :
    character.mapEffects change = character := by
  have action : ∀ action ∈ character.actions, (action.1, action.2.map change) = id action := by
    intro action inside
    have effects : action.2.map change = action.2.map id := List.map_congr_left
      fun effect listed => same effect (List.mem_flatMap.2 ⟨action, inside, listed⟩)
    rw [effects, List.map_id]
    rfl
  have actions : character.actions.map (fun (key, effects) => (key, effects.map change)) =
      character.actions := (List.map_congr_left action).trans (List.map_id _)
  rw [mapEffects, actions]

theorem decode_actionNode {effects : List Effect}
    (finite : ∀ x ∈ effects.flatMap Effect.singles, x.isFinite) :
    Effect.inAction (Effect.actionNode effects) = .ok (effects.map Effect.reread) := by
  have each : Decode.list Effect.inDocument (.ofItems (effects.map Effect.node)) =
      .ok (effects.map Effect.reread) :=
    Decode.list_ofItems fun effect inside => Effect.inDocument_node fun x listed =>
      finite x (List.mem_flatMap.2 ⟨effect, inside, listed⟩)
  rw [Effect.inAction, Effect.actionNode, Decode.record_ofMembers]
  · simp [Decode.put, each]
  · simp
  · simp

/-- **A character is read back**, with its effects read again. -/
theorem decode_node (finite : ∀ x ∈ character.singles, x.isFinite)
    (sorted : character.actions.Sorted) :
    Character.decode character.node = .ok (character.mapEffects Effect.reread) := by
  have position : Position.decode character.position.node = .ok character.position :=
    Position.decode_node fun x listed => finite x (by simp [singles, listed])
  have settings : Decode.optional CharacterSettings.decode
      (optionalNode CharacterSettings.node character.settings) = .ok character.settings := by
    refine Decode.optional_node (fun kept written => ?_) fun kept inside => ?_
    · cases written
    · refine CharacterSettings.decode_node fun x listed => finite x ?_
      exact List.mem_append_left _ (List.mem_append_right _
        (List.mem_flatMap.2 ⟨kept, Option.mem_toList.2 inside, listed⟩))
  have actions : Decode.table Effect.inAction (.ofMembers (character.actions.map
      fun (key, effects) => (key, Effect.actionNode effects))) =
        .ok (character.mapEffects Effect.reread).actions :=
    Decode.table_ofMembers sorted fun action inside => decode_actionNode fun x listed =>
      finite x (List.mem_append_right _ (List.mem_flatMap.2 ⟨action, inside, listed⟩))
  rw [decode, node, Decode.record_ofMembers]
  · simp [Decode.put, fields, position, settings, actions, Decode.text]
    rfl
  · simp
  · simp [fields]

end Character

namespace Scene

variable {scene : Scene}

/-- The numbers of a scene. -/
def singles (scene : Scene) : List Single :=
  scene.sounds.map Sound.volume ++ scene.characters.flatMap Character.singles

/-- A scene with all its effects changed. -/
def mapEffects (change : Effect → Effect) (scene : Scene) : Scene :=
  { scene with characters := scene.characters.map (Character.mapEffects change) }

/-- The effects of the characters of a scene. -/
def effects (scene : Scene) : List Effect :=
  scene.characters.flatMap Character.effects

theorem mapEffects_eq_self {change : Effect → Effect}
    (same : ∀ effect ∈ scene.effects, change effect = effect) :
    scene.mapEffects change = scene := by
  have character : ∀ character ∈ scene.characters, character.mapEffects change = id character :=
    fun character inside => Character.mapEffects_eq_self fun effect listed =>
      same effect (List.mem_flatMap.2 ⟨character, inside, listed⟩)
  rw [mapEffects, List.map_congr_left character, List.map_id]

/-- **A scene is read back**, with its effects read again. -/
theorem decode_node (finite : ∀ x ∈ scene.singles, x.isFinite)
    (sorted : ∀ character ∈ scene.characters, character.actions.Sorted) :
    Scene.decode scene.node = .ok (scene.mapEffects Effect.reread) := by
  have sounds : Decode.list Sound.decode (.ofItems (scene.sounds.map Sound.node)) =
      .ok scene.sounds := by
    rw [Decode.list_ofItems fun sound inside => Sound.decode_node (finite _
      (List.mem_append_left _ (List.mem_map_of_mem inside))), List.map_id']
  have characters : Decode.list Character.decode
      (.ofItems (scene.characters.map Character.node)) =
        .ok (scene.mapEffects Effect.reread).characters :=
    Decode.list_ofItems fun character inside => Character.decode_node
      (fun x listed => finite x (List.mem_append_right _
        (List.mem_flatMap.2 ⟨character, inside, listed⟩))) (sorted character inside)
  rw [decode, node, Decode.record_ofMembers]
  · simp [Decode.put, fields, sounds, characters, Decode.text]
    rfl
  · simp
  · simp [fields]

end Scene

/-! ### What was read -/

theorem Colour.digits?_lt {digits : List Char} {value : Nat}
    (read : Colour.digits? digits = some value) : value < Colour.limit := by
  simp only [Colour.digits?, Option.bind_eq_bind, Option.bind_eq_some_iff, Option.pure_def,
    Option.some.injEq] at read
  obtain ⟨_, -, other, -, _, short, rfl⟩ := read
  by_contra long
  rw [guard, if_neg long] at short
  cases short

theorem Colour.ofText?_lt {text : String} {value : Nat}
    (read : Colour.ofText? text = some value) : value < Colour.limit := by
  unfold Colour.ofText? Colour.signed? at read
  split at read
  · exact Colour.digits?_lt read
  · exact Colour.digits?_lt read

/-- **A colour fits its bits**, whether it is written as a number or as a text. -/
theorem Colour.decode_yields : Colour.decode.Yields (· < Colour.limit) := by
  intro node colour read
  obtain ⟨settled, -, read⟩ := bind_eq_ok.1 read
  split at read
  case h_1 value =>
    split at read
    case isTrue bounds =>
      cases read
      exact (Int.toNat_lt bounds.1).2 bounds.2
    case isFalse => cases read
  case h_2 text =>
    split at read
    case h_1 value found =>
      cases read
      exact ofText?_lt found
    case h_2 => cases read
  case h_3 => cases read

theorem Style.decode_yields : Style.decode.Yields fun style => style.colour < Colour.limit := by
  refine Decode.record_yields ?_ (show 0xffffff < powerOfTwo 32 by decide)
  simp only [fields, List.forall_mem_cons]
  refine ⟨?distance, ?strength, ?colour, List.forall_mem_nil _⟩
  case distance => exact .set_other fun _ _ short => short
  case strength => exact .set_other fun _ _ short => short
  case colour => exact .set Colour.decode_yields fun _ _ short _ => short

theorem Character.decode_yields :
    Character.decode.Yields fun character => character.actions.Sorted := by
  have actions : (Decode.table Effect.inAction).Yields Table.Sorted := fun _ _ read =>
    (Decode.table_yields (fun _ _ _ => trivial) read).1
  refine Decode.record_yields ?_ Table.sorted_nil
  simp only [fields, List.forall_mem_cons]
  refine ⟨?name, ?image, ?position, ?settings, ?actions, List.forall_mem_nil _⟩
  case name => exact .set_other fun _ _ sorted => sorted
  case image => exact .set_other fun _ _ sorted => sorted
  case position => exact .set_other fun _ _ sorted => sorted
  case settings => exact .set_other fun _ _ sorted => sorted
  case actions =>
    exact .set actions fun _ _ sorted _ => sorted

theorem Scene.decode_yields : Scene.decode.Yields fun scene =>
    ∀ character ∈ scene.characters, character.actions.Sorted := by
  refine Decode.record_yields ?_ (List.forall_mem_nil _)
  simp only [fields, List.forall_mem_cons]
  refine ⟨?background, ?sounds, ?characters, List.forall_mem_nil _⟩
  case background => exact .set_other fun _ _ sorted => sorted
  case sounds => exact .set_other fun _ _ sorted => sorted
  case characters =>
    exact .set (Decode.list_yields Character.decode_yields) fun _ _ sorted _ => sorted

/-! ### Stories -/

namespace Document

variable {document : Document}

/-- The numbers of a story. -/
def singles (document : Document) : List Single :=
  document.style.singles ++ document.scenes.flatMap fun (_, scene) => scene.singles

/-- The effects of a story. -/
def effects (document : Document) : List Effect :=
  document.scenes.flatMap fun (_, scene) => scene.effects

/-- A story with all its effects changed. -/
def mapEffects (change : Effect → Effect) (document : Document) : Document :=
  { document with scenes := document.scenes.map fun (id, scene) => (id, scene.mapEffects change) }

/-- **What every story that was read is like**: its colour fits its bits, and its tables are
sorted. -/
structure Proper (document : Document) : Prop where
  colour : document.style.colour < Colour.limit
  scenes : document.scenes.Sorted
  actions : ∀ entry ∈ document.scenes, ∀ character ∈ entry.2.characters, character.actions.Sorted

/-- **A story that was read is proper.** -/
theorem decode_yields : Document.decode.Yields Proper := by
  have style : Style.inSettings.Yields fun style => style.colour < Colour.limit := by
    refine Decode.record_yields ?_ (show 0xffffff < powerOfTwo 32 by decide)
    simp only [List.forall_mem_cons]
    exact ⟨fun _ _ _ put _ => Style.decode_yields put, List.forall_mem_nil _⟩
  refine Decode.record_yields ?_ ⟨show 0xffffff < powerOfTwo 32 by decide, Table.sorted_nil,
    List.forall_mem_nil _⟩
  simp only [fields, List.forall_mem_cons]
  refine ⟨?settings, ?splash, ?start, ?scenes, List.forall_mem_nil _⟩
  case settings => exact .set style fun _ _ short proper => { proper with colour := short }
  case splash => exact .set_other fun _ _ ⟨short, sorted, actions⟩ => ⟨short, sorted, actions⟩
  case start => exact .set_other fun _ _ ⟨short, sorted, actions⟩ => ⟨short, sorted, actions⟩
  case scenes =>
    exact .set (Decode.table_yields Scene.decode_yields) fun _ _ sorted proper =>
      ⟨proper.colour, sorted.1, sorted.2⟩

/-- **A story is read back**, with its effects read again. -/
theorem decode_node (finite : ∀ x ∈ document.singles, x.isFinite) (proper : document.Proper) :
    Document.decode document.node = .ok (document.mapEffects Effect.reread) := by
  have style : Style.inSettings (.ofMembers [("interactive", document.style.node)]) =
      .ok document.style := by
    have style : Style.decode document.style.node = .ok document.style :=
      Style.decode_node (fun x listed => finite x (List.mem_append_left _ listed)) proper.colour
    rw [Style.inSettings, Decode.record_ofMembers]
    · simp [Decode.put, style]
    · simp
    · simp
  have scenes : Decode.table Scene.decode (.ofMembers (document.scenes.map
      fun (id, scene) => (id, scene.node))) = .ok (document.mapEffects Effect.reread).scenes :=
    Decode.table_ofMembers proper.scenes fun entry inside => Scene.decode_node
      (fun x listed => finite x (List.mem_append_right _
        (List.mem_flatMap.2 ⟨entry, inside, listed⟩))) (proper.actions entry inside)
  rw [decode, node, Decode.record_ofMembers]
  · simp [Decode.put, fields, style, scenes, Splash.decode_node, Decode.text]
    rfl
  · simp
  · simp [fields]

/-- A story of a JSON text is proper, and its start scene is there. -/
theorem proper_of_ofJson {text : String} (read : ofJson text = .ok document) :
    document.Proper ∧ (document.scene? document.start).isSome := by
  obtain ⟨written, decoded, checked⟩ := bind_eq_ok.1 read
  have proper : written.Proper := by
    cases done : Json.decode decode text with
    | error fault =>
      rw [done] at decoded
      cases decoded
    | ok value =>
      rw [done] at decoded
      cases decoded
      obtain ⟨story, decoded, rest⟩ := bind_eq_ok.1 done
      simp only at rest
      split at rest
      · cases rest
      · cases rest
        exact decode_yields decoded
  unfold checkStart at checked
  split at checked
  · cases checked
    exact ⟨proper, ‹_›⟩
  · cases checked

theorem scene?_mapEffects (change : Effect → Effect) (id : String) :
    (document.mapEffects change).scene? id = (document.scene? id).map (Scene.mapEffects change) :=
  Table.find?_map (Scene.mapEffects change)

/-- **A story of a JSON text can be written and read again**: every effect is read back as what
becomes of it. -/
theorem ofNode_node {text : String} (read : ofJson text = .ok document)
    (finite : ∀ x ∈ document.singles, x.isFinite) :
    ofNode document.node = .ok (document.mapEffects Effect.reread) := by
  obtain ⟨proper, starts⟩ := proper_of_ofJson read
  rw [ofNode, decode_node finite proper]
  show checkStart (document.mapEffects Effect.reread) = _
  have starts' : ((document.mapEffects Effect.reread).scene?
      (document.mapEffects Effect.reread).start).isSome := by
    rw [scene?_mapEffects, Option.isSome_map]
    exact starts
  rw [checkStart, if_pos starts']
  rfl

theorem mapEffects_eq_self {change : Effect → Effect}
    (same : ∀ effect ∈ document.effects, change effect = effect) :
    document.mapEffects change = document := by
  have entry : ∀ entry ∈ document.scenes, (entry.1, entry.2.mapEffects change) = id entry := by
    intro entry inside
    rw [Scene.mapEffects_eq_self fun effect listed =>
      same effect (List.mem_flatMap.2 ⟨entry, inside, listed⟩)]
    rfl
  have scenes : document.scenes.map (fun (id, scene) => (id, scene.mapEffects change)) =
      document.scenes := (List.map_congr_left entry).trans (List.map_id _)
  rw [mapEffects, scenes]

/-- **Reading undoes writing.** A story of a JSON text, with finite numbers and without unresolved
effects, is the story of its value and of every text of that value. -/
theorem reads_back {text : String} (read : ofJson text = .ok document)
    (finite : ∀ x ∈ document.singles, x.isFinite)
    (resolved : ∀ effect ∈ document.effects, effect.isResolved) :
    ofNode document.node = .ok document ∧
      ∀ written, Json.read written = (document.node, false) → ofJson written = .ok document := by
  have same : ofNode document.node = .ok document := by
    rw [ofNode_node read finite, mapEffects_eq_self fun effect inside =>
      Effect.reread_of_isResolved (resolved effect inside)]
  refine ⟨same, fun written whole => ?_⟩
  have decoded : Json.decode decode written = decode document.node := by
    rw [Json.decode, whole]
    simp only
    cases decode document.node <;> rfl
  rw [ofJson, decoded]
  exact same

/-- A story that leaves out what may be left out, and spells some of the rest in other ways than it
is written back. -/
def alleyText : String :=
  "\x7b\"settings\":\x7b\"interactive\":\x7b\"color\":\"#f80\"\x7d\x7d,\"splash\":[\"s.png\",\"s.mp3\"]," ++
    "\"start\":\"alley\",\"scenes\":\x7b\"alley\":[\"alley.png\",[],[\x7b\"name\":\"Cat\",\"image\":" ++
    "\"cat.png\",\"position\":[10,20.5],\"actions\":\x7b\"sniff\":[[\x7b\"name\":\"spin\"\x7d]]\x7d\x7d]]\x7d\x7d"

/-- What it tells. -/
def alleyStory : Document :=
  ⟨⟨10, 2, 0xf80⟩, ⟨"s.png", "s.mp3"⟩, "alley", [("alley", ⟨"alley.png", [],
    [⟨"Cat", "cat.png", ⟨10, 20.5⟩, none, [("sniff", [.spin (Single.narrow 0.1)])]⟩]⟩)]⟩

/-- It is read back, although its text is another one than the one it is written as. -/
theorem reads_back_alley :
    ofJson alleyText = .ok alleyStory ∧ ofNode alleyStory.node = .ok alleyStory := by
  have read : ofJson alleyText = .ok alleyStory := by decide +kernel
  have finite : ∀ x ∈ alleyStory.singles, x.isFinite := by decide +kernel
  have resolved : ∀ effect ∈ alleyStory.effects, effect.isResolved := by decide +kernel
  exact ⟨read, (reads_back read finite resolved).1⟩

end Document

end Storybook.Story
