import Mathlib.Data.List.Nodup
import Toasts.Countdowns

/-!
What each operation on countdowns does to the countdown of one key. The countdowns of an engine never
share a key, so whatever holds of the countdown that is looked up holds of the only one there is.
-/

namespace Toasts

namespace Span

@[simp] theorem after_zero (span : Span) : span.after 0 = span := rfl

@[simp] theorem after_after (span : Span) (first second : Nat) :
    (span.after first).after second = span.after (first + second) := by
  simp [after, Nat.sub_sub]

theorem isZero_after_iff (span : Span) (millis : Nat) :
    (span.after (millis * nanosPerMilli)).isZero = true ↔ span.coveringMillis ≤ millis := by
  simp only [isZero, after, coveringMillis, nanosPerMilli, beq_iff_eq]
  omega

end Span

theorem filter_of_distinct {Entry Key : Type} [DecidableEq Key] {entries : List Entry}
    (key : Entry → Key) {entry : Entry} (distinct : (entries.map key).Nodup)
    (member : entry ∈ entries) : entries.filter (key · = key entry) = [entry] := by
  obtain ⟨above, below, split⟩ := List.append_of_mem member
  rw [split, List.map_append, List.map_cons, List.nodup_middle, ← List.map_append,
    List.nodup_cons] at distinct
  have others : ∀ other ∈ above ++ below, ¬ decide (key other = key entry) = true := by
    intro other member hit
    exact distinct.1 (of_decide_eq_true hit ▸ List.mem_map_of_mem member)
  have first := List.filter_eq_nil_iff.mpr fun other member =>
    others other (List.mem_append_left _ member)
  have last := List.filter_eq_nil_iff.mpr fun other member =>
    others other (List.mem_append_right _ member)
  rw [split, List.filter_append, List.filter_cons, first, last]
  simp

def Countdown.ending {Key Action : Type} (countdown : Countdown Key Action) : Nat :=
  countdown.since + countdown.remaining.coveringMillis

theorem Countdown.isZero_left_iff {Key Action : Type} {countdown : Countdown Key Action} {now : Nat}
    (begun : countdown.since ≤ now) :
    (countdown.left now).isZero = true ↔ countdown.ending ≤ now := by
  rw [left, Span.isZero_after_iff, ending]
  omega

namespace Countdowns

variable {Key Action : Type}
variable {countdowns after : Countdowns Key Action} {countdown : Countdown Key Action}
variable {key other : Key} {now : Nat}

def Distinct (countdowns : Countdowns Key Action) : Prop :=
  (countdowns.entries.map (·.key)).Nodup

theorem restart_map {View : Type} (view : Countdown Key Action → View)
    (same : ∀ countdown since generation,
      view { countdown with since, generation } = view countdown)
    (entries : List (Countdown Key Action)) (generation : Nat) :
    (restart now entries generation).map view = entries.map view := by
  induction entries generalizing generation with
  | nil => rfl
  | cons countdown rest ih => simp [restart, ih, same]

theorem restart_keys (entries : List (Countdown Key Action)) (generation : Nat) :
    (restart now entries generation).map (·.key) = entries.map (·.key) :=
  restart_map (·.key) (fun _ _ _ => rfl) entries generation

theorem mem_restart {entries : List (Countdown Key Action)} {generation : Nat}
    {renewed : Countdown Key Action} (member : renewed ∈ restart now entries generation) :
    ∃ countdown ∈ entries, ∃ number, generation < number ∧ number ≤ generation + entries.length ∧
      renewed = { countdown with since := now, generation := number } := by
  induction entries generalizing generation with
  | nil => cases member
  | cons head rest ih =>
      rcases List.mem_cons.mp member with rfl | later
      · exact ⟨head, List.mem_cons_self, generation + 1, by omega, by simp, rfl⟩
      · obtain ⟨countdown, present, number, above, below, same⟩ := ih later
        refine ⟨countdown, List.mem_cons_of_mem _ present, number, by omega, ?_, same⟩
        rw [List.length_cons]
        omega

theorem pause_distinct (distinct : countdowns.Distinct) (now : Nat) :
    (countdowns.pause now).Distinct := by
  simp only [pause]
  split
  · exact distinct
  · simpa [Distinct, Function.comp_def] using distinct

theorem resume_distinct (distinct : countdowns.Distinct) (now : Nat) :
    (countdowns.resume now).countdowns.Distinct := by
  simp only [resume]
  split
  · simp only [Distinct, restart_keys]
    exact distinct.sublist (List.filter_sublist.map _)
  · exact distinct

theorem resume_running (running : countdowns.paused = false) (now : Nat) :
    countdowns.resume now = ⟨countdowns, [], []⟩ := by
  simp [resume, running]

theorem of_mem_due (member : countdown ∈ (countdowns.resume now).due) :
    countdowns.paused = true ∧ countdown ∈ countdowns.entries ∧
      countdown.remaining.isZero = true := by
  cases paused : countdowns.paused with
  | false =>
      rw [resume_running paused] at member
      cases member
  | true =>
      simp only [resume, paused, if_true] at member
      obtain ⟨present, empty⟩ := List.mem_filter.mp member
      exact ⟨rfl, present, empty⟩

variable [DecidableEq Key]

theorem key_of_get? (found : countdowns.get? key = some countdown) : countdown.key = key :=
  of_decide_eq_true (List.find?_some found :)

theorem mem_of_get? (found : countdowns.get? key = some countdown) :
    countdown ∈ countdowns.entries :=
  List.mem_of_find?_eq_some found

theorem get?_of_mem (distinct : countdowns.Distinct) (member : countdown ∈ countdowns.entries) :
    countdowns.get? countdown.key = some countdown := by
  cases first : countdowns.get? countdown.key with
  | none =>
      have missed := List.find?_eq_none.mp first countdown member
      simp at missed
  | some found =>
      rw [List.inj_on_of_nodup_map distinct (mem_of_get? first) member (key_of_get? first)]

theorem filter_of_get? (distinct : countdowns.Distinct) (found : countdowns.get? key = some countdown) :
    countdowns.entries.filter (·.key = key) = [countdown] := by
  rw [← key_of_get? found]
  exact filter_of_distinct Countdown.key distinct (mem_of_get? found)

theorem get?_cancel (countdowns : Countdowns Key Action) (key other : Key) :
    (countdowns.cancel key).get? other = if other = key then none else countdowns.get? other := by
  simp only [get?, cancel, List.find?_filter]
  by_cases same : other = key
  · subst same
    simp
  · rw [if_neg same]
    congr 1
    funext countdown
    by_cases hit : countdown.key = other
    · simp [hit, same]
    · simp [hit]

theorem get?_cancel_each (keys : List Key) (countdowns : Countdowns Key Action) (other : Key) :
    (keys.foldl cancel countdowns).get? other =
      if other ∈ keys then none else countdowns.get? other := by
  induction keys generalizing countdowns with
  | nil => simp
  | cons key rest ih =>
      rw [List.foldl_cons, ih, get?_cancel]
      by_cases hit : other = key
      · simp [hit]
      · simp [hit]

theorem get?_schedule (countdowns : Countdowns Key Action) (key other : Key) (delay : Span)
    (action : Action) (now : Nat) (lasting : delay.isZero = false) :
    (countdowns.schedule key delay action now).1.get? other =
      if other = key then some ⟨key, countdowns.generation + 1, delay, now, action⟩
      else countdowns.get? other := by
  have rest := get?_cancel countdowns key other
  simp only [get?, schedule, lasting, Bool.false_eq_true, if_false, List.find?_append] at rest ⊢
  rw [rest]
  by_cases same : other = key
  · simp [same]
  · simp [same, Ne.symm same]

theorem get?_pause (countdowns : Countdowns Key Action) (now : Nat) (key : Key) :
    (countdowns.pause now).get? key = (countdowns.get? key).map fun countdown =>
      if countdowns.paused then countdown
      else { countdown with remaining := countdown.left now } := by
  cases paused : countdowns.paused with
  | true => simp [pause, paused]
  | false =>
      simp only [pause, paused, Bool.false_eq_true, if_false, get?, List.find?_map]
      rfl

theorem cancel_distinct (distinct : countdowns.Distinct) (key : Key) :
    (countdowns.cancel key).Distinct :=
  distinct.sublist (List.filter_sublist.map _)

theorem cancel_unheld (unheld : countdowns.has key = false) : countdowns.cancel key = countdowns := by
  have others := List.find?_eq_none.mp (Option.not_isSome_iff_eq_none.mp (ne_true_of_eq_false unheld))
  rw [cancel, List.filter_eq_self.mpr fun countdown member => by simpa using others countdown member]

theorem cancel_each (keys : List Key) (countdowns : Countdowns Key Action) :
    keys.foldl cancel countdowns =
      { countdowns with entries := countdowns.entries.filter (·.key ∉ keys) } := by
  induction keys generalizing countdowns with
  | nil => simp
  | cons key rest ih =>
      rw [List.foldl_cons, ih]
      simp [cancel, List.filter_filter, Bool.and_comm]

theorem cancel_each_shape (keys : List Key) (countdowns : Countdowns Key Action) :
    ∃ entries, entries.Sublist countdowns.entries ∧
      keys.foldl cancel countdowns = { countdowns with entries } :=
  ⟨_, List.filter_sublist, cancel_each keys countdowns⟩

theorem schedule_distinct (distinct : countdowns.Distinct) (key : Key) (delay : Span)
    (action : Action) (now : Nat) : (countdowns.schedule key delay action now).1.Distinct := by
  simp only [schedule]
  split
  · exact distinct
  · simp only [Distinct, List.map_append, List.map_singleton]
    rw [List.nodup_append]
    refine ⟨cancel_distinct distinct key, by simp, ?_⟩
    intro other present single member same
    obtain ⟨countdown, kept, rfl⟩ := List.mem_map.mp present
    rw [List.mem_singleton.mp member] at same
    exact of_decide_eq_true (List.mem_filter.mp kept).2 same

theorem schedule_paused (countdowns : Countdowns Key Action) (key : Key) (delay : Span)
    (action : Action) (now : Nat) :
    (countdowns.schedule key delay action now).1.paused = countdowns.paused := by
  rw [schedule]
  split <;> rfl

/-- A resumption goes on with the countdowns that have something left, each for that. -/
theorem get?_resume_some {renewed : Countdown Key Action} (distinct : countdowns.Distinct)
    (paused : countdowns.paused = true)
    (found : (countdowns.resume now).countdowns.get? key = some renewed) :
    ∃ countdown, countdowns.get? key = some countdown ∧ countdown.remaining.isZero = false ∧
      ∃ number, countdowns.generation < number ∧
        number ≤ (countdowns.resume now).countdowns.generation ∧
        renewed = { countdown with since := now, generation := number } := by
  have keyed := key_of_get? found
  have member := mem_of_get? found
  simp only [resume, paused, if_true] at member ⊢
  obtain ⟨countdown, present, number, above, below, rfl⟩ := mem_restart member
  obtain ⟨present, lasting⟩ := List.mem_filter.mp present
  refine ⟨countdown, ?_, by simpa using lasting, number, above, below, rfl⟩
  rw [← keyed]
  exact get?_of_mem distinct present

/-- A resumption hands out the countdowns with nothing left, and loses no other. -/
theorem get?_resume_none (paused : countdowns.paused = true)
    (gone : (countdowns.resume now).countdowns.get? key = none)
    (found : countdowns.get? key = some countdown) :
    countdown.remaining.isZero = true ∧ countdown ∈ (countdowns.resume now).due := by
  have member := mem_of_get? found
  have empty : countdown.remaining.isZero = true := by
    cases lasting : countdown.remaining.isZero with
    | true => rfl
    | false =>
        have frozen : countdown ∈ countdowns.entries.filter fun countdown =>
            !countdown.remaining.isZero := List.mem_filter.mpr ⟨member, by simp [lasting]⟩
        -- Had it something left, it would have been started again under its key.
        have keys := List.mem_map_of_mem (f := (·.key)) frozen
        rw [← @restart_keys _ _ now _ countdowns.generation] at keys
        obtain ⟨renewed, present, same⟩ := List.mem_map.mp keys
        simp only [resume, paused, if_true] at gone
        have missed := List.find?_eq_none.mp gone renewed present
        simp [same, key_of_get? found] at missed
  refine ⟨empty, ?_⟩
  simp only [resume, paused, if_true]
  exact List.mem_filter.mpr ⟨member, empty⟩

theorem expire?_some {generation : Nat}
    (expired : countdowns.expire? key generation = some (after, countdown)) :
    countdowns.get? key = some countdown ∧ countdown.generation = generation ∧
      countdowns.paused = false ∧ after = countdowns.cancel key := by
  simp only [expire?] at expired
  split at expired
  next found held =>
      split at expired
      next current =>
          obtain ⟨rfl, rfl⟩ := Prod.mk.inj (Option.some.inj expired)
          exact ⟨held, current.1, current.2, rfl⟩
      next => cases expired
  next => cases expired

theorem isSome_expire? (countdowns : Countdowns Key Action) (key : Key) (generation : Nat) :
    (countdowns.expire? key generation).isSome = (countdowns.get? key).any fun countdown =>
      decide (countdown.generation = generation ∧ countdowns.paused = false) := by
  rw [expire?]
  cases countdowns.get? key with
  | none => rfl
  | some countdown =>
      simp only [Option.any_some]
      split
      next current => exact (decide_eq_true current).symm
      next stale => exact (decide_eq_false stale).symm

theorem has_iff : countdowns.has key = true ↔ ∃ countdown, countdowns.get? key = some countdown :=
  Option.isSome_iff_exists

theorem has_cancel (countdowns : Countdowns Key Action) (key other : Key) :
    (countdowns.cancel key).has other = (decide (other ≠ key) && countdowns.has other) := by
  by_cases same : other = key <;> simp [has, get?_cancel, same]

theorem has_cancel_each (keys : List Key) (countdowns : Countdowns Key Action) (other : Key) :
    (keys.foldl cancel countdowns).has other =
      (decide (other ∉ keys) && countdowns.has other) := by
  by_cases member : other ∈ keys <;> simp [has, get?_cancel_each, member]

theorem has_schedule (countdowns : Countdowns Key Action) (key other : Key) (delay : Span)
    (action : Action) (now : Nat) (lasting : delay.isZero = false) :
    (countdowns.schedule key delay action now).1.has other =
      (decide (other = key) || countdowns.has other) := by
  by_cases same : other = key <;> simp [has, get?_schedule _ _ _ _ _ _ lasting, same]

theorem has_pause (countdowns : Countdowns Key Action) (now : Nat) (key : Key) :
    (countdowns.pause now).has key = countdowns.has key := by
  simp [has, get?_pause]

theorem has_of_mem (member : countdown ∈ countdowns.entries) :
    countdowns.has countdown.key = true :=
  List.find?_isSome.mpr ⟨countdown, member, decide_eq_true rfl⟩

theorem has_of_has_resume (held : (countdowns.resume now).countdowns.has key = true) :
    countdowns.has key = true := by
  cases paused : countdowns.paused with
  | false => rwa [resume_running paused] at held
  | true =>
      obtain ⟨renewed, found⟩ := has_iff.mp held
      have member := mem_of_get? found
      simp only [resume, paused, if_true] at member
      obtain ⟨countdown, present, _, _, _, renewal⟩ := mem_restart member
      have keyed : countdown.key = key := by
        rw [← key_of_get? found, renewal]
      rw [← keyed]
      exact has_of_mem (List.mem_filter.mp present).1

theorem unheld_due (distinct : countdowns.Distinct)
    (due : key ∈ (countdowns.resume now).due.map (·.key)) :
    (countdowns.resume now).countdowns.has key = false := by
  obtain ⟨countdown, member, rfl⟩ := List.mem_map.mp due
  obtain ⟨paused, present, spent⟩ := of_mem_due member
  by_contra held
  obtain ⟨renewed, found⟩ := has_iff.mp (by simpa using held)
  obtain ⟨other, sought, lasting, _⟩ := get?_resume_some distinct paused found
  rw [get?_of_mem distinct present] at sought
  obtain rfl := Option.some.inj sought
  rw [spent] at lasting
  cases lasting

theorem isSome_remaining? (countdowns : Countdowns Key Action) (key : Key) (now : Nat) :
    (countdowns.remaining? key now).isSome = countdowns.has key := by
  simp [remaining?, has]

theorem remaining?_cancel (countdowns : Countdowns Key Action) (key other : Key) (now : Nat) :
    (countdowns.cancel key).remaining? other now =
      if other = key then none else countdowns.remaining? other now := by
  have paused : (countdowns.cancel key).paused = countdowns.paused := rfl
  by_cases same : other = key <;> simp [remaining?, get?_cancel, paused, same]

theorem remaining?_schedule (countdowns : Countdowns Key Action) (key other : Key) (delay : Span)
    (action : Action) (now : Nat) (lasting : delay.isZero = false) :
    (countdowns.schedule key delay action now).1.remaining? other now =
      if other = key then some delay else countdowns.remaining? other now := by
  have paused := schedule_paused countdowns key delay action now
  by_cases same : other = key <;>
    simp [remaining?, get?_schedule _ _ _ _ _ _ lasting, paused, same, Countdown.left]

theorem remaining?_pause (countdowns : Countdowns Key Action) (key : Key) (now : Nat) :
    (countdowns.pause now).remaining? key now = countdowns.remaining? key now := by
  have stops : (countdowns.pause now).paused = true := by
    cases paused : countdowns.paused <;> simp [pause, paused]
  simp only [remaining?, get?_pause, stops, Option.map_map]
  congr 1
  funext countdown
  cases countdowns.paused <;> rfl

theorem remaining?_resume (distinct : countdowns.Distinct) (now : Nat)
    (held : (countdowns.resume now).countdowns.has key = true) :
    (countdowns.resume now).countdowns.remaining? key now = countdowns.remaining? key now := by
  cases paused : countdowns.paused with
  | false => rw [resume_running paused]
  | true =>
      have running : (countdowns.resume now).countdowns.paused = false := by simp [resume, paused]
      obtain ⟨renewed, found⟩ := has_iff.mp held
      obtain ⟨countdown, before, _, number, _, _, rfl⟩ := get?_resume_some distinct paused found
      simp [remaining?, found, before, running, paused, Countdown.left]

/-- While time passes, all of it is taken from what is left, and nothing during a pause. -/
theorem remaining?_later (countdowns : Countdowns Key Action) (key : Key) {now later : Nat}
    (begun : ∀ countdown ∈ countdowns.entries, countdown.since ≤ now) (forward : now ≤ later) :
    countdowns.remaining? key later = (countdowns.remaining? key now).map
      (·.after ((if countdowns.paused then 0 else later - now) * nanosPerMilli)) := by
  cases found : countdowns.get? key with
  | none => simp [remaining?, found]
  | some countdown =>
      have since := begun countdown (mem_of_get? found)
      cases paused : countdowns.paused with
      | true => simp [remaining?, found, paused]
      | false =>
          have total : (now - countdown.since) * nanosPerMilli + (later - now) * nanosPerMilli =
              (later - countdown.since) * nanosPerMilli := by
            rw [← Nat.add_mul]
            congr 1
            omega
          simp [remaining?, found, paused, Countdown.left, total]

end Countdowns

end Toasts
