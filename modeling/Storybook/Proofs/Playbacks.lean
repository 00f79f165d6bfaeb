/-
**Playings are conserved.**

A sound that is started plays until its clip is over or until its sound is stopped, whichever comes
first. If its clip is over first, this is reported once, by the next drain; if it is stopped, never. How
the time that passes is divided makes no difference.

* `Audio.Use`, `Audio.after`: everything that can be done with the audio, and what it leads to;
* `Audio.Ends`: a playing comes to the end of its clip before its sound is stopped;
* `Audio.Accounts`: the handles of the playings that go on, have ended and were reported are distinct;
* `Audio.update_add`: two spans that pass one after the other are one span;
* `Audio.Conserves`, `Audio.conserves_after`: what becomes of all playings, whatever is done.
-/

import Mathlib.Algebra.GroupWithZero.Nat
import Mathlib.Data.List.Induction
import Mathlib.Data.List.Nodup
import Mathlib.Data.List.Perm.Subperm
import Storybook.Sound.Audio

namespace Storybook

namespace Audio

/-! ### Using the audio -/

/-- Something that is done with the audio. -/
inductive Use
  | play (sound : String)
  | stop (sound : String)
  | setVolume (sound : String) (volume : Single)
  | update (span : Nat)
  | drain

/-- The span that passes in a use. -/
def Use.span : Use → Nat
  | .update span => span
  | _ => 0

variable (audio : Audio)

/-- What a use leads to. -/
def use : Use → Audio
  | .play sound => (audio.play sound).2
  | .stop sound => audio.stop sound
  | .setVolume sound volume => audio.setVolume sound volume
  | .update span => audio.update span
  | .drain => audio.drainFinished.2

/-- What several uses lead to. -/
def after (uses : List Use) : Audio :=
  uses.foldl use audio

/-- The handle that a use gives out. -/
def begins : Use → List PlaybackId
  | .play sound => [(audio.play sound).1]
  | _ => []

/-- The playings that a use reports as ended. -/
def reports : Use → List PlaybackId
  | .drain => audio.drainFinished.1
  | _ => []

/-- What several uses answer, one after the other. -/
def answers (answer : Audio → Use → List PlaybackId) (audio : Audio) : List Use → List PlaybackId
  | [] => []
  | use :: rest => answer audio use ++ answers answer (audio.use use) rest

/-- The handles that were given out. -/
def begun (uses : List Use) : List PlaybackId :=
  answers begins audio uses

/-- The playings that were reported as ended, in the order of the reports. -/
def delivered (uses : List Use) : List PlaybackId :=
  answers reports audio uses

/-- The handle of a sound that is started after some uses. -/
def handle (before : List Use) (sound : String) : PlaybackId :=
  ((audio.after before).play sound).1

/-- The instant at which the clip of a sound is over that is started after some uses. -/
def ending (before : List Use) (sound : String) : Nat :=
  (audio.after before).now + audio.clip sound

/-- A sound that was started after some uses comes to its end during later ones: at some update the
end of its clip is reached, and the sound was not stopped until then. -/
def Ends (before : List Use) (sound : String) (later : List Use) : Prop :=
  ∃ sooner span rest, later = sooner ++ .update span :: rest ∧ Use.stop sound ∉ sooner ∧
    audio.ending before sound ≤ (audio.after (before ++ .play sound :: (sooner ++ [.update span]))).now

/-- It comes to its end, and a drain follows. -/
def Drained (before : List Use) (sound : String) (later : List Use) : Prop :=
  ∃ sooner rest, later = sooner ++ .drain :: rest ∧ audio.Ends before sound sooner

/-- What becomes of all playings. -/
structure Conserves (uses : List Use) : Prop where
  /-- The clock moves on by the spans that pass. -/
  clock : (audio.after uses).now = audio.now + (uses.map Use.span).sum
  /-- The next playing has a handle that was not given out before. -/
  fresh : ∀ sound, audio.handle uses sound ∉ audio.begun uses
  /-- No playing is reported twice. -/
  once : (audio.delivered uses).Nodup
  /-- What is reported was started. -/
  known : ∀ playing ∈ audio.delivered uses, playing ∈ audio.begun uses
  /-- A playing is reported by the first drain after its end. -/
  ended : ∀ before sound later, uses = before ++ .play sound :: later →
    (audio.handle before sound ∈ (audio.after uses).drainFinished.1 ↔
      audio.Ends before sound later ∧ ¬ audio.Drained before sound later)
  /-- A playing was reported if it came to its end and a drain followed, and not else. -/
  reported : ∀ before sound later, uses = before ++ .play sound :: later →
    (audio.handle before sound ∈ audio.delivered uses ↔ audio.Drained before sound later)
  /-- A playing that was stopped before its end is not reported. -/
  stopped : ∀ before sound sooner later, uses = before ++ .play sound :: (sooner ++ .stop sound :: later) →
    ¬ audio.Ends before sound sooner → audio.handle before sound ∉ audio.delivered uses
  /-- A sound plays as long as some playing of it was not stopped and has not come to its end. -/
  playing : ∀ sound, (audio.after uses).isPlaying sound = true ↔
    ∃ before later, uses = before ++ .play sound :: later ∧ Use.stop sound ∉ later ∧
      ¬ audio.Ends before sound later
  /-- Whether a span passes at once or in two parts makes no difference to anything later. -/
  divided : ∀ first second later,
    audio.after (uses ++ .update (first + second) :: later) =
        audio.after (uses ++ .update first :: .update second :: later) ∧
      audio.delivered (uses ++ .update (first + second) :: later) =
        audio.delivered (uses ++ .update first :: .update second :: later)

/-! ### One use after the other -/

theorem after_append (first second : List Use) :
    audio.after (first ++ second) = (audio.after first).after second :=
  List.foldl_append

theorem after_concat (uses : List Use) (use : Use) :
    audio.after (uses ++ [use]) = (audio.after uses).use use :=
  List.foldl_concat ..

theorem now_use (use : Use) : (audio.use use).now = audio.now + use.span := by
  cases use <;> rfl

/-- **The clock moves on by the spans that pass**, and by nothing else. -/
theorem now_after (uses : List Use) :
    (audio.after uses).now = audio.now + (uses.map Use.span).sum := by
  induction uses using List.reverseRecOn with
  | nil => rfl
  | append_singleton uses use ih =>
    rw [after_concat, now_use, ih, List.map_append, List.sum_append, List.map_singleton, List.sum_singleton,
      Nat.add_assoc]

theorem answers_append (answer : Audio → Use → List PlaybackId) (first second : List Use) :
    ∀ audio : Audio, answers answer audio (first ++ second) =
      answers answer audio first ++ answers answer (audio.after first) second := by
  induction first with
  | nil => exact fun _ => rfl
  | cons use rest ih =>
    intro audio
    simp only [List.cons_append, answers, List.append_assoc]
    rw [ih]
    rfl

theorem answers_concat (answer : Audio → Use → List PlaybackId) (uses : List Use) (use : Use) :
    answers answer audio (uses ++ [use]) = answers answer audio uses ++ answer (audio.after uses) use := by
  rw [answers_append]
  exact congrArg _ (List.append_nil _)

/-- Something holds at some moment of a longer run if it does at one of the run, or at its end. -/
theorem exists_moment_concat {moment : List Use → Use → Prop} {uses : List Use} {last : Use} :
    (∃ before use rest, uses ++ [last] = before ++ use :: rest ∧ moment before use) ↔
      (∃ before use rest, uses = before ++ use :: rest ∧ moment before use) ∨ moment uses last := by
  constructor
  · rintro ⟨before, use, rest, split, here⟩
    rcases List.eq_nil_or_concat rest with rfl | ⟨rest, final, rfl⟩
    · obtain ⟨rfl, same⟩ := List.append_inj' split rfl
      cases same
      exact Or.inr here
    · rw [List.concat_eq_append, ← List.cons_append, ← List.append_assoc] at split
      obtain ⟨rfl, _⟩ := List.append_inj' split rfl
      exact Or.inl ⟨before, use, rest, rfl, here⟩
  · rintro (⟨before, use, rest, rfl, here⟩ | here)
    · exact ⟨before, use, rest ++ [last], List.append_assoc .., here⟩
    · exact ⟨uses, last, [], rfl, here⟩

section Moments

variable {audio} {before later : List Use} {sound : String} {use : Use}

theorem ends_concat :
    audio.Ends before sound (later ++ [use]) ↔ audio.Ends before sound later ∨
      ∃ span, use = .update span ∧ Use.stop sound ∉ later ∧
        audio.ending before sound ≤ (audio.after (before ++ .play sound :: later)).now + span := by
  have moments : ∀ uses, audio.Ends before sound uses ↔ ∃ sooner use rest, uses = sooner ++ use :: rest ∧
      ∃ span, use = .update span ∧ Use.stop sound ∉ sooner ∧
        audio.ending before sound ≤ (audio.after (before ++ .play sound :: sooner)).now + span := by
    intro uses
    have reaches : ∀ sooner span, (audio.after (before ++ .play sound :: (sooner ++ [.update span]))).now =
        (audio.after (before ++ .play sound :: sooner)).now + span := by
      intro sooner span
      rw [← List.cons_append, ← List.append_assoc, after_concat]
      rfl
    unfold Ends
    constructor
    · rintro ⟨sooner, span, rest, split, sounding, reached⟩
      exact ⟨sooner, _, rest, split, span, rfl, sounding, reaches sooner span ▸ reached⟩
    · rintro ⟨sooner, _, rest, split, span, rfl, sounding, reached⟩
      exact ⟨sooner, span, rest, split, sounding, (reaches sooner span).symm ▸ reached⟩
  rw [moments, moments, exists_moment_concat]

theorem drained_concat :
    audio.Drained before sound (later ++ [use]) ↔
      audio.Drained before sound later ∨ use = .drain ∧ audio.Ends before sound later := by
  have moments : ∀ uses, audio.Drained before sound uses ↔ ∃ sooner use rest,
      uses = sooner ++ use :: rest ∧ use = .drain ∧ audio.Ends before sound sooner := by
    intro uses
    constructor
    · rintro ⟨sooner, rest, split, ends⟩
      exact ⟨sooner, _, rest, split, rfl, ends⟩
    · rintro ⟨sooner, _, rest, split, rfl, ends⟩
      exact ⟨sooner, rest, split, ends⟩
  rw [moments, moments, exists_moment_concat]

theorem not_ends_nil : ¬ audio.Ends before sound [] := by
  rintro ⟨sooner, span, rest, split, _⟩
  exact List.append_ne_nil_of_right_ne_nil sooner (List.cons_ne_nil _ rest) split.symm

theorem not_drained_nil : ¬ audio.Drained before sound [] := by
  rintro ⟨sooner, rest, split, _⟩
  exact List.append_ne_nil_of_right_ne_nil sooner (List.cons_ne_nil _ rest) split.symm

/-- What has ended stays ended. -/
theorem Ends.append (ends : audio.Ends before sound later) (rest : List Use) :
    audio.Ends before sound (later ++ rest) := by
  obtain ⟨sooner, span, between, rfl, sounding, reached⟩ := ends
  exact ⟨sooner, span, between ++ rest, List.append_assoc .., sounding, reached⟩

/-- Only what has ended is drained. -/
theorem Drained.ends (drained : audio.Drained before sound later) : audio.Ends before sound later := by
  obtain ⟨sooner, rest, rfl, ends⟩ := drained
  exact ends.append _

/-- After it is stopped, a sound does not come to its end any more. -/
theorem ends_of_stopped {rest : List Use}
    (ends : audio.Ends before sound (later ++ .stop sound :: rest)) : audio.Ends before sound later := by
  obtain ⟨sooner, span, others, split, sounding, reached⟩ := ends
  rcases List.append_eq_append_iff.mp split with ⟨between, same, tail⟩ | ⟨between, same, tail⟩
  · rcases List.cons_eq_append_iff.mp tail with ⟨none, head⟩ | ⟨between, rfl, _⟩
    · cases head
    · exact absurd (same ▸ List.mem_append_right later (List.mem_cons_self ..)) sounding
  · rcases List.cons_eq_append_iff.mp tail with ⟨none, head⟩ | ⟨between, rfl, _⟩
    · cases head
    · exact ⟨sooner, span, between, same, sounding, reached⟩

end Moments

/-! ### Handles -/

/-- The handles of the voices. -/
def ids : List PlaybackId :=
  audio.voices.map Voice.id

/-- Some playings were reported, others have ended, and others go on: no two of them have the same
handle. All these handles were given out, in the order of their numbers. -/
structure Accounts (handles told : List PlaybackId) (audio : Audio) : Prop where
  apart : (told ++ audio.finished ++ audio.ids).Nodup
  given : ∀ playing ∈ told ++ audio.finished ++ audio.ids, playing ∈ handles
  issued : ∀ playing ∈ handles, playing.number ≤ audio.issued

theorem accounts_silent (standardClip : Nat) (clips : Table Nat) :
    Accounts [] [] (silent standardClip clips) :=
  ⟨.nil, nofun, nofun⟩

/-- The voices that have ended are noted, and the others go on. -/
theorem perm_update (audio : Audio) (span : Nat) :
    ((audio.update span).finished ++ (audio.update span).ids).Perm (audio.finished ++ audio.ids) := by
  have others : (fun voice : Voice => decide (audio.now + span < voice.ending)) =
      fun voice => !decide (voice.ending ≤ audio.now + span) :=
    funext fun voice => by rw [← decide_not, decide_eq_decide, Nat.not_le]
  unfold update ids
  dsimp only
  rw [List.append_assoc, others]
  refine .append_left _ ?_
  rw [← List.map_append]
  refine .map _ (.trans (.append_right _ (List.mergeSort_perm ..)) ?_)
  exact List.filter_append_perm _ _

namespace Accounts

variable {audio : Audio} {handles told : List PlaybackId}

/-- The next handle was not given out. -/
theorem fresh (accounts : Accounts handles told audio) : (⟨audio.issued + 1⟩ : PlaybackId) ∉ handles :=
  fun inside => Nat.not_succ_le_self _ (accounts.issued _ inside)

theorem told_given (accounts : Accounts handles told audio) {playing : PlaybackId}
    (member : playing ∈ told) : playing ∈ handles :=
  accounts.given playing (List.mem_append_left _ (List.mem_append_left _ member))

theorem finished_given (accounts : Accounts handles told audio) {playing : PlaybackId}
    (member : playing ∈ audio.finished) : playing ∈ handles :=
  accounts.given playing (List.mem_append_left _ (List.mem_append_right _ member))

theorem id_given (accounts : Accounts handles told audio) {voice : Voice} (member : voice ∈ audio.voices) :
    voice.id ∈ handles :=
  accounts.given voice.id (List.mem_append_right _ (List.mem_map_of_mem member))

/-- Handles may be dropped, and take another place. -/
theorem thins (accounts : Accounts handles told audio) {after : Audio} {later : List PlaybackId}
    (fewer : (later ++ after.finished ++ after.ids).Subperm (told ++ audio.finished ++ audio.ids))
    (issued : after.issued = audio.issued) : Accounts (handles ++ []) later after where
  apart := by
    obtain ⟨kept, same, sublist⟩ := fewer
    exact same.nodup_iff.mp (accounts.apart.sublist sublist)
  given playing member := List.mem_append_left _ (accounts.given playing (fewer.subset member))
  issued := by
    rw [List.append_nil, issued]
    exact accounts.issued

/-- A sound is started with a new handle. -/
theorem play (accounts : Accounts handles told audio) (sound : String) :
    Accounts (handles ++ [(audio.play sound).1]) told (audio.play sound).2 := by
  have more : told ++ (audio.play sound).2.finished ++ (audio.play sound).2.ids =
      told ++ audio.finished ++ audio.ids ++ [(audio.play sound).1] := by
    simp only [Audio.play, ids, List.map_append, List.map_cons, List.map_nil, List.append_assoc]
  have fresh : (audio.play sound).1 ∉ told ++ audio.finished ++ audio.ids :=
    fun inside => accounts.fresh (accounts.given _ inside)
  refine ⟨?_, ?_, ?_⟩
  · rw [more]
    exact List.nodup_append_comm.mp (List.nodup_cons.mpr ⟨fresh, accounts.apart⟩)
  · rw [more]
    exact List.forall_mem_append.mpr ⟨fun playing old => List.mem_append_left _ (accounts.given playing old),
      fun playing new => List.mem_append_right _ new⟩
  · refine List.forall_mem_append.mpr ⟨fun playing old => ?_, List.forall_mem_singleton.mpr (Nat.le_refl _)⟩
    exact Nat.le_succ_of_le (accounts.issued playing old)

/-- **Whatever is done, the handles stay distinct.** -/
theorem use (accounts : Accounts handles told audio) (use : Use) :
    Accounts (handles ++ audio.begins use) (told ++ audio.reports use) (audio.use use) := by
  cases use with
  | play sound =>
    have played := accounts.play sound
    rw [← List.append_nil told] at played
    exact played
  | stop sound =>
    refine accounts.thins (List.Sublist.subperm ?_) rfl
    simp only [reports, List.append_nil]
    exact .append_left (List.filter_sublist.map Voice.id) _
  | setVolume sound volume =>
    refine accounts.thins (List.Sublist.subperm ?_) rfl
    simp only [reports, List.append_nil]
    exact .refl _
  | update span =>
    refine accounts.thins (List.Perm.subperm ?_) rfl
    simp only [reports, List.append_nil, List.append_assoc]
    exact (audio.perm_update span).append_left told
  | drain =>
    refine accounts.thins (List.Perm.subperm ?_) rfl
    exact .of_eq (congrArg (· ++ audio.ids) (List.append_nil _))

theorem after (accounts : Accounts handles told audio) (uses : List Use) :
    Accounts (handles ++ audio.begun uses) (told ++ audio.delivered uses) (audio.after uses) := by
  induction uses generalizing handles told audio with
  | nil =>
    unfold begun delivered answers
    rw [List.append_nil, List.append_nil]
    exact accounts
  | cons first rest ih =>
    have later := ih (accounts.use first)
    rw [List.append_assoc, List.append_assoc] at later
    exact later

end Accounts

/-! ### Spans in two parts -/

theorem before_trans {first second third : Voice} (left : first.before second = true)
    (right : second.before third = true) : first.before third = true := by
  unfold Voice.before at left right ⊢
  simp only [Bool.or_eq_true, Bool.and_eq_true, decide_eq_true_eq] at left right ⊢
  omega

theorem before_total (first second : Voice) :
    (first.before second || second.before first) = true := by
  unfold Voice.before
  simp only [Bool.or_eq_true, Bool.and_eq_true, decide_eq_true_eq]
  omega

theorem before_antisymm {first second : Voice} (left : first.before second = true)
    (right : second.before first = true) : first.id = second.id := by
  unfold Voice.before at left right
  simp only [Bool.or_eq_true, Bool.and_eq_true, decide_eq_true_eq] at left right
  refine congrArg PlaybackId.mk (?_ : first.id.number = second.id.number)
  omega

theorem before_of_lt {first second : Voice} (earlier : first.ending < second.ending) :
    first.before second = true :=
  Bool.or_eq_true_iff.mpr (Or.inl (decide_eq_true earlier))

theorem pairwise_sort : ∀ voices : List Voice,
    (voices.mergeSort Voice.before).Pairwise fun first second => first.before second = true :=
  List.pairwise_mergeSort (fun _ _ _ => before_trans) before_total

/-- Voices of two kinds that end one kind after the other may be sorted each kind by itself. -/
theorem sort_partition {voices : List Voice} (distinct : (voices.map Voice.id).Nodup) (soon : Voice → Bool)
    (ahead : ∀ one other : Voice, soon one = true → soon other = false → one.before other = true) :
    voices.mergeSort Voice.before = (voices.filter soon).mergeSort Voice.before ++
      (voices.filter fun voice => !soon voice).mergeSort Voice.before := by
  have same : (voices.mergeSort Voice.before).Perm ((voices.filter soon).mergeSort Voice.before ++
      (voices.filter fun voice => !soon voice).mergeSort Voice.before) := by
    refine (List.mergeSort_perm ..).trans (.trans ?_ (.append (List.mergeSort_perm ..).symm
      (List.mergeSort_perm ..).symm))
    exact (List.filter_append_perm soon voices).symm
  refine same.eq_of_pairwise (fun one other member member' left right => ?_) (pairwise_sort _)
    (List.pairwise_append.mpr ⟨pairwise_sort _, pairwise_sort _, fun one member other member' => ?_⟩)
  · have inside := List.mem_mergeSort.mp member
    have inside' := List.mem_mergeSort.mp (same.mem_iff.mpr member')
    exact List.inj_on_of_nodup_map distinct inside inside' (before_antisymm left right)
  · have early := (List.mem_filter.mp (List.mem_mergeSort.mp member)).2
    have late := (List.mem_filter.mp (List.mem_mergeSort.mp member')).2
    exact ahead one other early (Bool.not_eq_true' _ ▸ late)

/-- Voices that are sorted end first where they end by an instant. -/
theorem sort_ended {voices : List Voice} (distinct : (voices.map Voice.id).Nodup) {soon late : Nat}
    (order : soon ≤ late) :
    (voices.filter fun voice => voice.ending ≤ late).mergeSort Voice.before =
      (voices.filter fun voice => voice.ending ≤ soon).mergeSort Voice.before ++
        ((voices.filter fun voice => soon < voice.ending).filter fun voice =>
          voice.ending ≤ late).mergeSort Voice.before := by
  have parts := sort_partition (distinct.sublist (List.filter_sublist.map Voice.id) :
    ((voices.filter fun voice => voice.ending ≤ late).map Voice.id).Nodup)
    (fun voice => voice.ending ≤ soon) fun one other early later => before_of_lt ?_
  · have first : ((voices.filter fun voice => voice.ending ≤ late).filter fun voice =>
        voice.ending ≤ soon) = voices.filter fun voice => voice.ending ≤ soon := by
      rw [List.filter_filter]
      refine List.filter_congr fun voice _ => ?_
      rw [← Bool.decide_and, decide_eq_decide]
      omega
    have second : ((voices.filter fun voice => voice.ending ≤ late).filter fun voice =>
        !decide (voice.ending ≤ soon)) = (voices.filter fun voice => soon < voice.ending).filter fun voice =>
          voice.ending ≤ late := by
      rw [List.filter_filter, List.filter_filter]
      refine List.filter_congr fun voice _ => ?_
      rw [← decide_not, ← Bool.decide_and, ← Bool.decide_and, decide_eq_decide]
      omega
    rw [first, second] at parts
    exact parts
  · exact Nat.lt_of_le_of_lt (of_decide_eq_true early) (Nat.not_le.mp (of_decide_eq_false later))

/-- **Two spans that pass one after the other are one span.** -/
theorem update_add {audio : Audio} {handles told : List PlaybackId} (accounts : Accounts handles told audio)
    (first second : Nat) : audio.update (first + second) = (audio.update first).update second := by
  have distinct := (List.nodup_append.mp accounts.apart).2.1
  have ended := sort_ended distinct (Nat.le_add_right (audio.now + first) second)
  have others : (audio.voices.filter fun voice => audio.now + first + second < voice.ending) =
      (audio.voices.filter fun voice => audio.now + first < voice.ending).filter fun voice =>
        audio.now + first + second < voice.ending := by
    rw [List.filter_filter]
    refine List.filter_congr fun voice _ => ?_
    rw [← Bool.decide_and, decide_eq_decide]
    omega
  unfold update
  dsimp only
  rw [← Nat.add_assoc, ended, others, List.map_append, List.append_assoc]

/-! ### What becomes of a playing -/

section Fates

variable {audio : Audio} {handles told : List PlaybackId} {before later : List Use} {sound : String}

/-- The clips stay the same. -/
theorem clip_after (uses : List Use) (audio : Audio) (sound : String) :
    (audio.after uses).clip sound = audio.clip sound :=
  List.foldlRecOn (motive := fun reached : Audio => reached.clip sound = audio.clip sound) uses use rfl
    fun _ same use _ => by cases use <;> exact same

theorem issued_le_use (audio : Audio) (use : Use) : audio.issued ≤ (audio.use use).issued := by
  cases use with
  | play sound => exact Nat.le_succ _
  | _ => exact Nat.le_refl _

/-- A voice that was there before a use goes on, if its sound is not stopped and its end not reached. -/
theorem mem_voices_use {voice : Voice} (given : voice.id.number ≤ audio.issued) (use : Use) :
    voice ∈ (audio.use use).voices ↔ voice ∈ audio.voices ∧ use ≠ .stop voice.sound ∧
      ∀ span, use = .update span → audio.now + span < voice.ending := by
  cases use with
  | play sound =>
    refine List.mem_append.trans (Iff.trans (or_iff_left fun new => ?_) ?_)
    · cases List.mem_singleton.mp new
      exact Nat.not_succ_le_self _ given
    · exact (and_iff_left ⟨nofun, nofun⟩).symm
  | stop sound =>
    refine List.mem_filter.trans (and_congr_right fun _ => ?_)
    rw [decide_eq_true_iff, ne_comm, and_iff_left nofun]
    exact not_congr ⟨congrArg Use.stop, Use.stop.inj⟩
  | setVolume sound volume => exact (and_iff_left ⟨nofun, nofun⟩).symm
  | update span =>
    refine List.mem_filter.trans (and_congr_right fun _ => ?_)
    rw [decide_eq_true_iff, and_iff_right nofun]
    exact ⟨fun late _ same => Use.update.inj same ▸ late, fun late => late span rfl⟩
  | drain => exact (and_iff_left ⟨nofun, nofun⟩).symm

/-- What has ended is noted until it is drained, and voices whose end is reached are noted with it. -/
theorem mem_finished_use {playing : PlaybackId} (use : Use) :
    playing ∈ (audio.use use).finished ↔ use ≠ .drain ∧ (playing ∈ audio.finished ∨
      ∃ span, use = .update span ∧ ∃ voice ∈ audio.voices, voice.id = playing ∧
        voice.ending ≤ audio.now + span) := by
  cases use with
  | update span =>
    refine List.mem_append.trans (Iff.trans (or_congr_right ?_) (and_iff_right nofun).symm)
    simp only [Use.update.injEq, exists_eq_left', List.mem_map, List.mem_mergeSort, List.mem_filter,
      decide_eq_true_eq, and_assoc, and_comm (a := _ = playing)]
  | drain => exact iff_of_false List.not_mem_nil fun holds => holds.1 rfl
  | _ => exact (or_iff_left nofun).symm.trans (and_iff_right nofun).symm

/-- The voice of a sound that is started after some uses. -/
def voice (audio : Audio) (before : List Use) (sound : String) : Voice :=
  ⟨audio.handle before sound, sound, audio.ending before sound⟩

theorem voices_play : (audio.after (before ++ [.play sound])).voices =
    (audio.after before).voices ++ [audio.voice before sound] := by
  unfold voice ending
  rw [after_concat, ← clip_after before]
  rfl

/-- Uses that follow the start of a sound. -/
theorem after_play_concat (use : Use) : audio.after (before ++ .play sound :: (later ++ [use])) =
    (audio.after (before ++ .play sound :: later)).use use := by
  rw [← List.cons_append, ← List.append_assoc, after_concat]

theorem handle_issued : (audio.handle before sound).number ≤
    (audio.after (before ++ .play sound :: later)).issued := by
  induction later using List.reverseRecOn with
  | nil =>
    rw [after_concat]
    exact Nat.le_refl _
  | append_singleton later use ih =>
    rw [after_play_concat]
    exact Nat.le_trans ih (issued_le_use _ use)

/-- **A voice goes on until its sound is stopped or its end is reached.** -/
theorem mem_voices_iff :
    audio.voice before sound ∈ (audio.after (before ++ .play sound :: later)).voices ↔
      Use.stop sound ∉ later ∧ ¬ audio.Ends before sound later := by
  induction later using List.reverseRecOn with
  | nil =>
    rw [voices_play]
    exact iff_of_true (List.mem_append_right _ (List.mem_singleton_self _)) ⟨nofun, not_ends_nil⟩
  | append_singleton later use ih =>
    rw [after_play_concat, mem_voices_use handle_issued, ih, ends_concat, List.mem_append,
      List.mem_singleton, not_or, not_or]
    constructor
    · rintro ⟨⟨sounding, lasts⟩, unstopped, late⟩
      refine ⟨⟨sounding, fun same => unstopped same.symm⟩, lasts, ?_⟩
      rintro ⟨span, same, _, reached⟩
      exact absurd reached (Nat.not_le.mpr (late span same))
    · rintro ⟨⟨sounding, unstopped⟩, lasts, late⟩
      refine ⟨⟨sounding, lasts⟩, fun same => unstopped same.symm, fun span same => ?_⟩
      exact Nat.not_le.mp fun reached => late ⟨span, same, sounding, reached⟩

/-- No other voice has its handle. -/
theorem eq_voice (accounts : Accounts handles told audio) {other : Voice}
    (goesOn : other ∈ (audio.after (before ++ .play sound :: later)).voices)
    (named : other.id = audio.handle before sound) : other = audio.voice before sound := by
  induction later using List.reverseRecOn with
  | nil =>
    rw [voices_play] at goesOn
    refine (List.mem_append.mp goesOn).elim (fun old => ?_) List.mem_singleton.mp
    exact absurd ((accounts.after before).id_given old) (named ▸ (accounts.after before).fresh)
  | append_singleton later use ih =>
    rw [after_play_concat] at goesOn
    exact ih ((mem_voices_use (named ▸ handle_issued) use).mp goesOn).1

/-- **A playing is noted as ended** from its end on until it is drained. -/
theorem mem_finished_iff (accounts : Accounts handles told audio) :
    audio.handle before sound ∈ (audio.after (before ++ .play sound :: later)).finished ↔
      audio.Ends before sound later ∧ ¬ audio.Drained before sound later := by
  induction later using List.reverseRecOn with
  | nil =>
    refine iff_of_false (fun ended => ?_) fun ends => not_ends_nil ends.1
    rw [after_concat] at ended
    exact (accounts.after before).fresh ((accounts.after before).finished_given ended)
  | append_singleton later use ih =>
    rw [after_play_concat, mem_finished_use, ih, ends_concat, drained_concat]
    constructor
    · rintro ⟨undrained, ⟨ends, waits⟩ | ⟨span, same, other, goesOn, named, past⟩⟩
      · exact ⟨Or.inl ends, fun drained => drained.elim waits fun now => undrained now.1⟩
      · cases eq_voice accounts goesOn named
        obtain ⟨sounding, lasts⟩ := mem_voices_iff.mp goesOn
        refine ⟨Or.inr ⟨span, same, sounding, past⟩, fun drained => ?_⟩
        exact drained.elim (fun before => lasts before.ends) fun now => lasts now.2
    · rintro ⟨ends | ⟨span, same, sounding, past⟩, undrained⟩
      · refine ⟨fun drain => undrained (Or.inr ⟨drain, ends⟩), Or.inl ⟨ends, fun drained => ?_⟩⟩
        exact undrained (Or.inl drained)
      · refine ⟨fun drain => Use.noConfusion (same.symm.trans drain), ?_⟩
        by_cases ends : audio.Ends before sound later
        · exact Or.inl ⟨ends, fun drained => undrained (Or.inl drained)⟩
        · exact Or.inr ⟨span, same, _, mem_voices_iff.mpr ⟨sounding, ends⟩, rfl, past⟩

/-- **A playing was reported** if it came to its end and a drain followed. -/
theorem mem_delivered_iff (accounts : Accounts [] [] audio) :
    audio.handle before sound ∈ audio.delivered (before ++ .play sound :: later) ↔
      audio.Drained before sound later := by
  induction later using List.reverseRecOn with
  | nil =>
    refine iff_of_false (fun told => ?_) not_drained_nil
    unfold delivered at told
    rw [answers_concat] at told
    refine (List.mem_append.mp told).elim (fun told => ?_) nofun
    exact (accounts.after before).fresh ((accounts.after before).told_given told)
  | append_singleton later use ih =>
    have noted : audio.handle before sound ∈ (audio.after (before ++ .play sound :: later)).reports use ↔
        use = .drain ∧ audio.handle before sound ∈
          (audio.after (before ++ .play sound :: later)).finished := by
      cases use with
      | drain => exact (and_iff_right rfl).symm
      | _ => exact iff_of_false nofun nofun
    unfold delivered at ih ⊢
    rw [← List.cons_append, ← List.append_assoc, answers_concat, List.mem_append, ih, noted,
      mem_finished_iff accounts, drained_concat]
    constructor
    · rintro (drained | ⟨drain, ends, _⟩)
      · exact Or.inl drained
      · exact Or.inr ⟨drain, ends⟩
    · rintro (drained | ⟨drain, ends⟩)
      · exact Or.inl drained
      · by_cases drained : audio.Drained before sound later
        · exact Or.inl drained
        · exact Or.inr ⟨drain, ends, drained⟩

/-- Every voice belongs to a sound that was started. -/
theorem exists_play (silent : audio.voices = []) (uses : List Use) :
    ∀ voice ∈ (audio.after uses).voices, ∃ before later, uses = before ++ .play voice.sound :: later ∧
      voice = audio.voice before voice.sound := by
  induction uses using List.reverseRecOn with
  | nil => exact fun voice member => absurd (silent ▸ member) List.not_mem_nil
  | append_singleton uses use ih =>
    intro voice member
    have old : voice ∈ (audio.after uses).voices → ∃ before later, uses ++ [use] =
        before ++ .play voice.sound :: later ∧ voice = audio.voice before voice.sound := by
      intro member
      obtain ⟨before, later, split, same⟩ := ih voice member
      exact ⟨before, later ++ [use], split ▸ List.append_assoc .., same⟩
    cases use with
    | play sound =>
      rw [voices_play] at member
      refine (List.mem_append.mp member).elim old fun new => ?_
      cases List.mem_singleton.mp new
      exact ⟨uses, [], rfl, rfl⟩
    | stop sound =>
      rw [after_concat] at member
      exact old (List.mem_of_mem_filter member)
    | update span =>
      rw [after_concat] at member
      exact old (List.mem_of_mem_filter member)
    | _ =>
      rw [after_concat] at member
      exact old member

end Fates

/-- **Playings are conserved**, whatever is done with the audio. -/
theorem conserves_after (standardClip : Nat) (clips : Table Nat) (uses : List Use) :
    (silent standardClip clips).Conserves uses := by
  have accounts := accounts_silent standardClip clips
  have reached := accounts.after uses
  constructor
  case clock =>
    exact now_after _ uses
  case fresh =>
    exact fun sound => reached.fresh
  case once =>
    exact (List.nodup_append.mp (List.nodup_append.mp reached.apart).1).1
  case known =>
    exact fun playing told => reached.told_given told
  case ended =>
    rintro before sound later rfl
    exact mem_finished_iff accounts
  case reported =>
    rintro before sound later rfl
    exact mem_delivered_iff accounts
  case stopped =>
    rintro before sound sooner later rfl lasts told
    exact lasts (ends_of_stopped ((mem_delivered_iff accounts).mp told).ends)
  case playing =>
    intro sound
    unfold isPlaying
    rw [List.any_eq_true]
    constructor
    · rintro ⟨voice, member, same⟩
      cases of_decide_eq_true same
      obtain ⟨before, later, rfl, this⟩ := exists_play rfl uses voice member
      exact ⟨before, later, rfl, mem_voices_iff.mp (this ▸ member)⟩
    · rintro ⟨before, later, rfl, goesOn⟩
      exact ⟨_, mem_voices_iff.mpr goesOn, decide_eq_true rfl⟩
  case divided =>
    intro first second later
    have same := update_add reached first second
    refine ⟨?_, ?_⟩
    · rw [after_append, after_append]
      exact congrArg (after · later) same
    · unfold delivered
      rw [answers_append, answers_append]
      exact congrArg (_ ++ answers reports · later) same

end Audio

end Storybook
