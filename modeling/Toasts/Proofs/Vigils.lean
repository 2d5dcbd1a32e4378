import Toasts.Proofs.Agenda
import Toasts.Proofs.Countdowns

/-!
Waiting for countdowns. Every running countdown is waited for under its generation, and no such wait
ends before the countdown has nothing left. If time passes only when all tasks have begun to wait,
none ends later either. A wait under another generation may still be on the agenda, but no countdown
ever gets that generation again.
-/

namespace Toasts

variable {Key Action Work : Type}

namespace Agenda

def keep (make : Key → Nat → Work) (agenda : Agenda Work) (vigils : List (Vigil Key)) :
    Agenda Work :=
  vigils.foldl (fun agenda vigil => agenda.spawn vigil.delay (make vigil.key vigil.generation))
    agenda

variable {make : Key → Nat → Work} {agenda : Agenda Work} {vigils : List (Vigil Key)}

theorem mem_endings_keep {work : Work} {ending : Nat} :
    (work, ending) ∈ (agenda.keep make vigils).endings ↔ (work, ending) ∈ agenda.endings ∨
      ∃ vigil ∈ vigils, make vigil.key vigil.generation = work ∧
        agenda.deadline vigil.delay = ending := by
  simp only [endings, keep, foldl_spawn, List.map_append, List.mem_append, List.map_map,
    List.mem_map, Function.comp_apply, Task.ending, Prod.mk.injEq, deadline]
  exact or_right_comm

theorem mem_works_keep {work : Work} : work ∈ (agenda.keep make vigils).works ↔
    work ∈ agenda.works ∨ ∃ vigil ∈ vigils, make vigil.key vigil.generation = work := by
  simp only [works, keep, foldl_spawn, List.map_append, List.mem_append, List.map_map,
    List.mem_map, Function.comp_apply, Task.work]
  exact or_right_comm

theorem keep_now : (agenda.keep make vigils).now = agenda.now := by
  simp [keep, foldl_spawn]

theorem keep_waiting : (agenda.keep make vigils).waiting = agenda.waiting := by
  simp [keep, foldl_spawn]

theorem asked_keep : agenda.asked (agenda.keep make vigils) =
    vigils.map fun vigil => (make vigil.key vigil.generation, agenda.deadline vigil.delay) := by
  simp only [asked, keep, foldl_spawn, List.drop_left, List.filterMap_map]
  exact congrFun List.filterMap_eq_map' vigils

end Agenda

namespace Countdowns

/-- Countdowns become other ones. Each of these was there before, or begins now under a new generation
and has a vigil of its own if it runs; there are no other vigils. -/
structure Renewal (countdowns after : Countdowns Key Action) (now : Nat)
    (vigils : List (Vigil Key)) : Prop where
  grows : countdowns.generation ≤ after.generation
  entries : ∀ countdown ∈ after.entries,
    (countdown ∈ countdowns.entries ∧ countdowns.paused = after.paused) ∨
    (countdown.since = now ∧ countdowns.generation < countdown.generation ∧
      countdown.generation ≤ after.generation ∧ (after.paused = false →
        ⟨countdown.key, countdown.generation, countdown.remaining⟩ ∈ vigils))
  vigils : ∀ vigil ∈ vigils, ∃ countdown ∈ after.entries, after.paused = false ∧
    countdowns.generation < countdown.generation ∧ countdown.since = now ∧
    vigil = ⟨countdown.key, countdown.generation, countdown.remaining⟩

theorem Renewal.refl (countdowns : Countdowns Key Action) (now : Nat) :
    countdowns.Renewal countdowns now [] where
  grows := Nat.le_refl _
  entries _ member := .inl ⟨member, rfl⟩
  vigils := by simp

theorem resume_renewal (countdowns : Countdowns Key Action) (now : Nat) :
    countdowns.Renewal (countdowns.resume now).countdowns now (countdowns.resume now).vigils := by
  cases paused : countdowns.paused with
  | false =>
      rw [resume_running paused]
      exact .refl countdowns now
  | true =>
      simp only [resume, paused, if_true]
      constructor
      · exact Nat.le_add_right _ _
      · intro countdown member
        obtain ⟨frozen, _, number, above, below, rfl⟩ := mem_restart member
        exact .inr ⟨rfl, above, below, fun _ => List.mem_map_of_mem member⟩
      · intro vigil own
        obtain ⟨countdown, member, rfl⟩ := List.mem_map.mp own
        obtain ⟨frozen, _, number, above, below, renewal⟩ := mem_restart member
        exact ⟨countdown, member, rfl, by rw [renewal]; exact above, by rw [renewal], rfl⟩

theorem schedule_renewal [DecidableEq Key] (countdowns : Countdowns Key Action) (key : Key)
    (delay : Span) (action : Action) (now : Nat) :
    countdowns.Renewal (countdowns.schedule key delay action now).1 now
      (countdowns.schedule key delay action now).2 := by
  cases lasting : delay.isZero with
  | true => simpa [schedule, lasting] using Renewal.refl countdowns now
  | false =>
      simp only [schedule, lasting, Bool.false_eq_true, if_false]
      constructor
      · exact Nat.le_succ _
      · intro countdown member
        rcases List.mem_append.mp member with old | single
        · exact .inl ⟨(List.mem_filter.mp old).1, rfl⟩
        · obtain rfl := List.mem_singleton.mp single
          refine .inr ⟨rfl, Nat.lt_succ_self _, Nat.le_refl _, fun running => ?_⟩
          simp only at running
          simp [running]
      · intro vigil own
        cases paused : countdowns.paused with
        | true => simp [paused] at own
        | false =>
            simp only [paused, Bool.false_eq_true, if_false] at own
            obtain rfl := List.mem_singleton.mp own
            exact ⟨_, List.mem_append_right _ (List.mem_singleton_self _), rfl,
              Nat.lt_succ_self _, rfl, rfl⟩

end Countdowns

/-- Countdowns and the agenda that keeps the waits for them agree. The function tells which work is
the end of a wait, and for which generation of which countdown; the proposition is that time passes
only when all tasks have begun to wait. -/
structure Watched (vigil? : Work → Option (Key × Nat)) (prompt : Prop)
    (countdowns : Countdowns Key Action) (agenda : Agenda Work) : Prop where
  distinct : countdowns.Distinct
  begun : ∀ countdown ∈ countdowns.entries, countdown.since ≤ agenda.now
  numbered : ∀ countdown ∈ countdowns.entries, countdown.generation ≤ countdowns.generation
  given : ∀ work ∈ agenda.works, ∀ key generation, vigil? work = some (key, generation) →
    generation ≤ countdowns.generation
  ahead : ∀ wait ∈ agenda.waiting, agenda.now < wait.deadline
  early : countdowns.paused = false → ∀ countdown ∈ countdowns.entries, ∀ work ending,
    (work, ending) ∈ agenda.endings → vigil? work = some (countdown.key, countdown.generation) →
    countdown.ending ≤ ending
  late : prompt → countdowns.paused = false → ∀ countdown ∈ countdowns.entries, ∀ work ending,
    (work, ending) ∈ agenda.endings → vigil? work = some (countdown.key, countdown.generation) →
    ending ≤ max countdown.ending agenda.now
  present : countdowns.paused = false → ∀ countdown ∈ countdowns.entries, ∃ work ∈ agenda.works,
    vigil? work = some (countdown.key, countdown.generation)

namespace Watched

variable {vigil? : Work → Option (Key × Nat)} {prompt : Prop}
variable {countdowns after : Countdowns Key Action} {agenda later : Agenda Work}

theorem initial (vigil? : Work → Option (Key × Nat)) (prompt : Prop) (now : Nat) :
    Watched vigil? prompt ({} : Countdowns Key Action) { now } where
  distinct := List.nodup_nil
  begun := by simp
  numbered := by simp
  given := by simp [Agenda.works]
  ahead := by simp
  early := by simp
  late := by simp
  present := by simp

theorem thinned (watched : Watched vigil? prompt countdowns agenda)
    (fewer : after.entries.Sublist countdowns.entries)
    (generation : after.generation = countdowns.generation)
    (paused : after.paused = countdowns.paused) : Watched vigil? prompt after agenda where
  distinct := watched.distinct.sublist (fewer.map _)
  begun countdown member := watched.begun countdown (fewer.subset member)
  numbered countdown member := generation ▸ watched.numbered countdown (fewer.subset member)
  given work member key number waits := generation ▸ watched.given work member key number waits
  ahead := watched.ahead
  early running countdown member :=
    watched.early (paused ▸ running) countdown (fewer.subset member)
  late soon running countdown member :=
    watched.late soon (paused ▸ running) countdown (fewer.subset member)
  present running countdown member :=
    watched.present (paused ▸ running) countdown (fewer.subset member)

theorem paused (watched : Watched vigil? prompt countdowns agenda) :
    Watched vigil? prompt (countdowns.pause agenda.now) agenda := by
  cases stopped : countdowns.paused with
  | true => simpa [Countdowns.pause, stopped] using watched
  | false =>
      have shape : countdowns.pause agenda.now = { countdowns with
          paused := true
          entries := countdowns.entries.map fun countdown =>
            { countdown with remaining := countdown.left agenda.now } } := by
        simp [Countdowns.pause, stopped]
      have distinct := Countdowns.pause_distinct watched.distinct agenda.now
      rw [shape] at distinct ⊢
      refine ⟨distinct, ?_, ?_, watched.given, watched.ahead, ?_, ?_, ?_⟩
      · intro frozen member
        obtain ⟨countdown, present, rfl⟩ := List.mem_map.mp member
        exact watched.begun countdown present
      · intro frozen member
        obtain ⟨countdown, present, rfl⟩ := List.mem_map.mp member
        exact watched.numbered countdown present
      · exact fun running => by cases running
      · exact fun _ running => by cases running
      · exact fun running => by cases running

theorem takesUp {outcome : Option Work} (watched : Watched vigil? prompt countdowns agenda)
    (taken : agenda.TakesUp later outcome)
    (needless : countdowns.paused = false → ∀ work, outcome = some work →
      ∀ countdown ∈ countdowns.entries, vigil? work ≠ some (countdown.key, countdown.generation)) :
    Watched vigil? prompt countdowns later := by
  have same := taken.now
  have works := taken.works
  have endings := taken.endings
  constructor
  · exact watched.distinct
  · exact fun countdown member => same ▸ watched.begun countdown member
  · exact watched.numbered
  · intro work member
    exact watched.given work (works.symm.subset (List.mem_append_right _ member))
  · cases taken with
    | begins delay work rest chosen lasting =>
        intro wait member
        rcases List.mem_append.mp member with before | single
        · exact watched.ahead wait before
        · obtain rfl := List.mem_singleton.mp single
          have positive : 0 < delay.coveringMillis := by
            simp only [Span.isZero, beq_eq_false_iff_ne, ne_eq] at lasting
            simp only [Span.coveringMillis, nanosPerMilli]
            omega
          simp only [Agenda.deadline]
          omega
    | ends task rest chosen due => exact watched.ahead
  · intro running countdown member work ending waits
    exact watched.early running countdown member work ending
      (endings.symm.subset (List.mem_append_right _ waits))
  · intro soon running countdown member work ending waits
    rw [same]
    exact watched.late soon running countdown member work ending
      (endings.symm.subset (List.mem_append_right _ waits))
  · intro running countdown member
    obtain ⟨work, waits, kind⟩ := watched.present running countdown member
    rcases List.mem_append.mp (works.subset waits) with gone | stays
    · exact absurd kind (needless running work (by simpa using gone) countdown member)
    · exact ⟨work, stays, kind⟩

theorem advance {moment : Nat} (watched : Watched vigil? prompt countdowns agenda)
    (forward : agenda.now ≤ moment) (soon : prompt → agenda.AllBegun) :
    Watched vigil? prompt countdowns (agenda.advance moment) := by
  have works := agenda.works_advance moment
  constructor
  · exact watched.distinct
  · exact fun countdown member => Nat.le_trans (watched.begun countdown member) forward
  · exact watched.numbered
  · exact fun work member => watched.given work (works.subset member)
  · intro wait member
    exact of_decide_eq_true (List.mem_filter.mp member).2
  · intro running countdown member work ending waits kind
    obtain ⟨earlier, before, less, _⟩ := Agenda.endings_advance forward waits
    exact Nat.le_trans (watched.early running countdown member work earlier before kind) less
  · intro quick running countdown member work ending waits kind
    obtain ⟨earlier, before, _, exactly⟩ := Agenda.endings_advance forward waits
    have bound := watched.late quick running countdown member work earlier before kind
    rw [exactly (soon quick)]
    simp only [Agenda.advance]
    omega
  · intro running countdown member
    obtain ⟨work, waits, kind⟩ := watched.present running countdown member
    exact ⟨work, works.symm.subset waits, kind⟩

theorem spawned {work : Work} (watched : Watched vigil? prompt countdowns agenda) (delay : Span)
    (foreign : vigil? work = none) : Watched vigil? prompt countdowns (agenda.spawn delay work) := by
  have works := agenda.works_spawn delay work
  have old {other : Work} {ending : Nat} {pair : Key × Nat}
      (waits : (other, ending) ∈ (agenda.spawn delay work).endings)
      (kind : vigil? other = some pair) : (other, ending) ∈ agenda.endings := by
    rcases List.mem_cons.mp ((agenda.endings_spawn delay work).subset waits) with same | before
    · obtain ⟨rfl, _⟩ := Prod.mk.inj same
      rw [foreign] at kind
      cases kind
    · exact before
  constructor
  · exact watched.distinct
  · exact watched.begun
  · exact watched.numbered
  · intro other member key generation kind
    rcases List.mem_cons.mp (works.subset member) with rfl | before
    · rw [foreign] at kind
      cases kind
    · exact watched.given other before key generation kind
  · exact watched.ahead
  · intro running countdown member other ending waits kind
    exact watched.early running countdown member other ending (old waits kind) kind
  · intro soon running countdown member other ending waits kind
    exact watched.late soon running countdown member other ending (old waits kind) kind
  · intro running countdown member
    obtain ⟨other, waits, kind⟩ := watched.present running countdown member
    exact ⟨other, works.symm.subset (List.mem_cons_of_mem _ waits), kind⟩

/-- Countdowns that are renewed are watched once their vigils are kept. -/
theorem renewed {make : Key → Nat → Work} (watched : Watched vigil? prompt countdowns agenda)
    (made : ∀ key generation, vigil? (make key generation) = some (key, generation))
    {vigils : List (Vigil Key)} (distinct : after.Distinct)
    (renewal : countdowns.Renewal after agenda.now vigils) :
    Watched vigil? prompt after (agenda.keep make vigils) := by
  obtain ⟨grows, entries, vigils_own⟩ := renewal
  -- A countdown and a wait match only if both are old or both are new.
  have matched {countdown work ending} (member : countdown ∈ after.entries)
      (running : after.paused = false) (waits : (work, ending) ∈ (agenda.keep make vigils).endings)
      (kind : vigil? work = some (countdown.key, countdown.generation)) :
      (countdown ∈ countdowns.entries ∧ countdowns.paused = false ∧
        (work, ending) ∈ agenda.endings) ∨ ending = countdown.ending := by
    rcases Agenda.mem_endings_keep.mp waits with before | ⟨vigil, own, rfl, rfl⟩
    · rcases entries countdown member with ⟨old, same⟩ | ⟨_, new, _⟩
      · exact .inl ⟨old, same.trans running, before⟩
      · have present : work ∈ agenda.works := by
          rw [Agenda.works_eq]
          exact List.mem_map_of_mem before
        have bound := watched.given work present _ _ kind
        omega
    · obtain ⟨twin, twinMember, _, new, begun, rfl⟩ := vigils_own vigil own
      obtain ⟨key, _⟩ := Prod.mk.inj (Option.some.inj ((made _ _).symm.trans kind))
      obtain rfl : twin = countdown :=
        List.inj_on_of_nodup_map distinct twinMember member key
      exact .inr (by rw [Countdown.ending, begun]; rfl)
  constructor
  · exact distinct
  · intro countdown member
    rw [Agenda.keep_now]
    rcases entries countdown member with ⟨old, _⟩ | ⟨begun, _⟩
    · exact watched.begun countdown old
    · exact Nat.le_of_eq begun
  · intro countdown member
    rcases entries countdown member with ⟨old, _⟩ | ⟨_, _, bound, _⟩
    · exact Nat.le_trans (watched.numbered countdown old) grows
    · exact bound
  · intro work member key generation kind
    rcases Agenda.mem_works_keep.mp member with before | ⟨vigil, own, rfl⟩
    · exact Nat.le_trans (watched.given work before key generation kind) grows
    · obtain ⟨countdown, present, _, new, _, rfl⟩ := vigils_own vigil own
      obtain ⟨_, rfl⟩ := Prod.mk.inj (Option.some.inj ((made _ _).symm.trans kind))
      rcases entries countdown present with ⟨old, _⟩ | ⟨_, _, bound, _⟩
      · exact Nat.le_trans (watched.numbered countdown old) grows
      · exact bound
  · rw [Agenda.keep_now, Agenda.keep_waiting]
    exact watched.ahead
  · intro running countdown member work ending waits kind
    rcases matched member running waits kind with ⟨old, before, earlier⟩ | rfl
    · exact watched.early before countdown old work ending earlier kind
    · exact Nat.le_refl _
  · intro soon running countdown member work ending waits kind
    rw [Agenda.keep_now]
    rcases matched member running waits kind with ⟨old, before, earlier⟩ | rfl
    · exact watched.late soon before countdown old work ending earlier kind
    · exact Nat.le_max_left _ _
  · intro running countdown member
    rcases entries countdown member with ⟨old, same⟩ | ⟨_, _, _, own⟩
    · obtain ⟨work, waits, kind⟩ := watched.present (same.trans running) countdown old
      exact ⟨work, Agenda.mem_works_keep.mpr (.inl waits), kind⟩
    · exact ⟨_, Agenda.mem_works_keep.mpr (.inr ⟨_, own running, rfl⟩), made _ _⟩

theorem resumed {make : Key → Nat → Work} (watched : Watched vigil? prompt countdowns agenda)
    (made : ∀ key generation, vigil? (make key generation) = some (key, generation)) :
    Watched vigil? prompt (countdowns.resume agenda.now).countdowns
      (agenda.keep make (countdowns.resume agenda.now).vigils) :=
  watched.renewed made (Countdowns.resume_distinct watched.distinct _)
    (countdowns.resume_renewal agenda.now)

variable [DecidableEq Key]

theorem scheduled {make : Key → Nat → Work} (watched : Watched vigil? prompt countdowns agenda)
    (made : ∀ key generation, vigil? (make key generation) = some (key, generation))
    (key : Key) (delay : Span) (action : Action) :
    Watched vigil? prompt (countdowns.schedule key delay action agenda.now).1
      (agenda.keep make (countdowns.schedule key delay action agenda.now).2) :=
  watched.renewed made (Countdowns.schedule_distinct watched.distinct key delay action _)
    (countdowns.schedule_renewal key delay action agenda.now)

theorem ended {work : Work} {key : Key} {generation : Nat} {countdown : Countdown Key Action}
    (watched : Watched vigil? prompt countdowns agenda) (taken : agenda.TakesUp later (some work))
    (kind : vigil? work = some (key, generation))
    (expired : countdowns.expire? key generation = some (after, countdown)) :
    Watched vigil? prompt after later := by
  obtain ⟨_, _, _, rfl⟩ := Countdowns.expire?_some expired
  have fewer : Watched vigil? prompt (countdowns.cancel key) agenda :=
    watched.thinned List.filter_sublist rfl rfl
  refine fewer.takesUp taken ?_
  intro _ other same countdown member kind'
  obtain rfl := Option.some.inj same
  obtain ⟨rfl, _⟩ := Prod.mk.inj (Option.some.inj (kind.symm.trans kind'))
  exact of_decide_eq_true (List.mem_filter.mp member).2 rfl

/-- A wait that ends no countdown goes. A running countdown would have ended, so the wait is for
another generation. -/
theorem missed {work : Work} {key : Key} {generation : Nat}
    (watched : Watched vigil? prompt countdowns agenda) (taken : agenda.TakesUp later (some work))
    (kind : vigil? work = some (key, generation))
    (stale : countdowns.expire? key generation = none) : Watched vigil? prompt countdowns later := by
  apply watched.takesUp taken
  intro running other same countdown member kind'
  obtain rfl := Option.some.inj same
  obtain ⟨rfl, rfl⟩ := Prod.mk.inj (Option.some.inj (kind.symm.trans kind'))
  have found := Countdowns.get?_of_mem watched.distinct member
  simp [Countdowns.expire?, found, running] at stale

/-- A wait that ends a countdown ends when nothing of it is left. -/
theorem expired {work : Work} {key : Key} {generation : Nat} {countdown : Countdown Key Action}
    (watched : Watched vigil? prompt countdowns agenda) (taken : agenda.TakesUp later (some work))
    (kind : vigil? work = some (key, generation))
    (expired : countdowns.expire? key generation = some (after, countdown)) :
    countdowns.remaining? key agenda.now = some Span.zero := by
  obtain ⟨found, current, running, _⟩ := Countdowns.expire?_some expired
  have member := Countdowns.mem_of_get? found
  have keyed := Countdowns.key_of_get? found
  have waits : (work, agenda.now) ∈ agenda.endings :=
    taken.endings.symm.subset (List.mem_append_left _ (List.mem_singleton_self _))
  have early := watched.early running countdown member work agenda.now waits
    (by rw [kind, keyed, current])
  have empty := (Countdown.isZero_left_iff (watched.begun countdown member)).mpr early
  simp [Countdowns.remaining?, found, running, (Span.isZero_iff _).mp empty]

/-- When all that can be done now has been done, something is left of every running countdown. -/
theorem remaining {key : Key} (watched : Watched vigil? prompt countdowns agenda) (soon : prompt)
    (idle : agenda.ready = []) (running : countdowns.paused = false) :
    countdowns.remaining? key agenda.now ≠ some Span.zero := by
  intro none
  obtain ⟨countdown, found, empty⟩ := Option.map_eq_some_iff.mp none
  have member := Countdowns.mem_of_get? found
  obtain ⟨work, waits, kind⟩ := watched.present running countdown member
  rw [Agenda.works, idle, List.map_nil, List.nil_append] at waits
  obtain ⟨wait, waiting, rfl⟩ := List.mem_map.mp waits
  -- A wait that has not been taken up has its deadline ahead, and the countdown ends no earlier.
  have ahead := watched.ahead wait waiting
  have late := watched.late soon running countdown member wait.work wait.deadline
    (List.mem_append_right _ (List.mem_map_of_mem waiting)) kind
  have some : ¬ (countdown.left agenda.now).isZero = true := by
    rw [Countdown.isZero_left_iff (watched.begun countdown member)]
    omega
  rw [running] at empty
  exact some ((Span.isZero_iff _).mpr empty)

end Watched

end Toasts
