import Toasts.Proofs.Creations
import Toasts.Proofs.Entrances

/-!
First paints on the console. The renderer reports by identity, from a snapshot that was handed to it
earlier, so the record that is moved to visible need not be one that was drawn. It was drawn exactly
if it is as old as the snapshot of the last frame: if it has been neither created nor revised since
that was handed over. And the toast itself was drawn, in whichever edition, exactly if it had been
created by then.
-/

namespace Toasts.Console.Stage

open Engine (Stride)

variable {start stage after : Stage} {engine next : Engine} {easel easel' : Easel}
  {picture : Option Picture} {pictures more : List Picture} {snapshot : List Toast}
  {snapshots front back : List (List Toast)} {toast : Toast} {mark : Toast → Nat}

/-- The renderer moves a record that is entering to visible, by a step of its errand. -/
structure Reveals (stage after : Stage) (toast : Toast) : Prop where
  painting : stage.isPainting = true
  follows : ∃ picture, stage.follow? .own = some (after, picture)
  present : toast ∈ stage.engine.store.toasts
  entering : toast.lifecycle = .entering
  visible : { toast with lifecycle := .visible } ∈ after.engine.store.toasts

def Draws (mark : Toast → Nat) (number : Nat) (pictures : List Picture) : Prop :=
  ∃ picture ∈ pictures, ∃ toast ∈ picture.snapshot, mark toast = number

theorem unpainted_absent (reached : engine.Reached) (present : toast ∈ engine.store.toasts)
    (entering : toast.lifecycle = .entering) :
    { toast with lifecycle := .visible } ∉ engine.store.toasts := by
  intro member
  have same := reached.orderly.eq_of_edition member present rfl
  rw [← same] at entering
  cases entering

theorem id_of_reported {id : ToastId} {painted : Toast} (turn : engine.isCallersTurn = true)
    (absent : painted ∉ engine.store.toasts)
    (member : painted ∈ (engine.request (.markVisible id)).store.toasts) : painted.id = id := by
  have stride : engine.Stride (.request (.markVisible id)) _ := .request (.markVisible id) turn
  cases stride.edits rfl with
  | keeps toasts version refused => exact absurd (toasts ▸ member) absent
  | makes change asked made =>
      obtain rfl : Change.paint id = change := Option.some.inj asked
      cases made with
      | paint old seen found made store =>
          rw [store] at member
          rcases Store.mem_replaceFirst found member with rfl | kept
          · obtain ⟨_, rfl⟩ := Toast.painted?_some made
            rfl
          · exact absurd kept absent

theorem Reveals.reported (reveals : Reveals stage after toast) (staged : stage.easel = some easel)
    (reached : stage.engine.Reached) : toast.id ∈ easel.reports := by
  obtain ⟨painting, ⟨picture, follows⟩, present, entering, visible⟩ := reveals
  have absent := unpainted_absent reached present entering
  simp only [isPainting] at painting
  split at painting
  next ticket rest top =>
      have painted : stage.paint easel = (after, picture) := by
        simpa [follow?, step?, Engine.turn, top, staged, eq_of_beq painting] using follows
      rw [paint] at painted
      split at painted
      next id reports due =>
          obtain ⟨rfl, -⟩ := Prod.mk.inj painted
          have same := id_of_reported (Engine.isCallersTurn_of_call top) absent visible
          rw [due]
          exact List.mem_cons.mpr (.inl same)
      next shown queue done waiting =>
          obtain ⟨rfl, -⟩ := Prod.mk.inj painted
          exact absurd visible absent
      next done empty =>
          obtain ⟨rfl, -⟩ := Prod.mk.inj painted
          rw [Engine.resumeTurn_pops top rfl] at visible
          exact absurd visible absent
  next => cases painting

/-- A number that the engine gives out marks every record: whatever puts a record into the list
keeps the mark of one that was there, or takes a new number. -/
structure Dates (mark : Toast → Nat) : Prop where
  given : ∀ {engine : Engine}, engine.Reached → ∀ toast ∈ engine.store.toasts,
    mark toast ≤ engine.numbers
  origin : ∀ {engine event next}, engine.Reached → Stride engine event next →
    event.isManaged = true → ∀ new ∈ next.store.toasts, mark new ≤ engine.numbers →
      ∃ old ∈ engine.store.toasts, mark old = mark new

theorem dates_edition : Dates (·.edition) where
  given reached := reached.orderly.numbered
  origin reached stride managed new member given := by
    have recedes := stride.recedes managed reached.orderly
    obtain ⟨old, present, same, _⟩ := recedes.origin new member given
    exact ⟨old, present, same⟩

theorem dates_birth : Dates (·.birth) where
  given reached toast member := by
    have found := reached.orderly.get?_of_mem member
    obtain ⟨settings, defaults, now, run, managed⟩ := reached
    exact run.births managed found
  origin reached stride managed new member given := by
    have found := (reached.next stride managed).orderly.get?_of_mem member
    have descends := (stride.move managed).descends reached.orderly
    rcases descends new.id new found with late | ⟨old, present, same, _⟩
    · omega
    · exact ⟨old, Store.mem_of_get? present, same.symm⟩

theorem Advances.dated (advances : Advances engine easel next easel' picture) (dates : Dates mark)
    (reached : engine.Reached) : ∀ new ∈ next.store.toasts, mark new ≤ engine.numbers →
      ∃ old ∈ engine.store.toasts, mark old = mark new := by
  cases advances with
  | strides event next stride managed apart => exact dates.origin reached stride managed
  | reports id reports rest top due =>
      exact dates.origin reached (.request (.markVisible id) (Engine.isCallersTurn_of_call top)) rfl
  | _ => exact fun new member _ => ⟨new, member, rfl⟩

/-- What has come of the records since an earlier moment: numbers have grown, and a record with a
mark given out by then was there then. -/
structure Aged (mark : Toast → Nat) (before engine : Engine) : Prop where
  reached : engine.Reached
  numbers : before.numbers ≤ engine.numbers
  origin : ∀ new ∈ engine.store.toasts, mark new ≤ before.numbers →
    ∃ old ∈ before.store.toasts, mark old = mark new

theorem Advances.aged {before : Engine} (advances : Advances engine easel next easel' picture)
    (dates : Dates mark) (aged : Aged mark before engine) : Aged mark before next where
  reached := advances.reached aged.reached
  numbers := Nat.le_trans aged.numbers (advances.recedes aged.reached).numbers
  origin new member given := by
    obtain ⟨old, present, same⟩ :=
      advances.dated dates aged.reached new member (Nat.le_trans given aged.numbers)
    rw [← same] at given ⊢
    exact aged.origin old present given

theorem Run.aged (run : Run start stage pictures) (dates : Dates mark)
    (staged : start.easel = some easel) (reached : start.engine.Reached) :
    ∃ easel, stage.easel = some easel ∧ Aged mark start.engine stage.engine := by
  let kept (_ : List Picture) (engine : Engine) (_ : Easel) : Prop := Aged mark start.engine engine
  have first : Aged mark start.engine start.engine :=
    ⟨reached, Nat.le_refl _, fun new member _ => ⟨new, member, rfl⟩⟩
  have held : ∃ easel, stage.easel = some easel ∧ kept pictures stage.engine easel :=
    run.invariant ⟨easel, staged, first⟩ fun advances aged => advances.aged dates aged
  exact held

/-- The snapshots that have been handed to the renderer, up to some moment of a run: each as the
toasts were at that time, and before the frame that shows it. -/
inductive Film (start : Stage) : Stage → List Picture → List (List Toast) → Prop where
  | blank : Film start start [] []
  | runs {stage after : Stage} {pictures more : List Picture} {snapshots : List (List Toast)}
      (film : Film start stage pictures snapshots) (run : Run stage after more) :
      Film start after (pictures ++ more) snapshots
  | takes {stage : Stage} {pictures : List Picture} {snapshots : List (List Toast)}
      (film : Film start stage pictures snapshots) (fed : stage.isFed = true)
      (undrawn : pictures.length ≤ snapshots.length) :
      Film start stage pictures (snapshots ++ [stage.engine.store.toasts])

theorem Film.run (film : Film start stage pictures snapshots) : Run start stage pictures := by
  induction film with
  | blank => exact .start
  | runs film run ih => exact ih.append run
  | takes film fed undrawn ih => exact ih

structure Taken (start stage : Stage) (pictures : List Picture) (front : List (List Toast))
    (snapshot : List Toast) (taken : Stage) (before later : List Picture) : Prop where
  film : Film start taken before front
  sequel : Run taken stage later
  split : pictures = before ++ later
  fed : taken.isFed = true
  toasts : taken.engine.store.toasts = snapshot
  undrawn : before.length ≤ front.length

theorem Film.taken (film : Film start stage pictures (front ++ snapshot :: back)) :
    ∃ taken before later, Taken start stage pictures front snapshot taken before later := by
  generalize shape : front ++ snapshot :: back = snapshots at film
  induction film generalizing back with
  | blank => simp at shape
  | runs film run ih =>
      obtain ⟨taken, before, later, held⟩ := ih shape
      exact ⟨taken, before, later ++ _, { held with
        sequel := held.sequel.append run
        split := by rw [held.split, List.append_assoc] }⟩
  | @takes stage pictures snapshots film fed undrawn ih =>
      rcases List.eq_nil_or_concat back with rfl | ⟨back, last, rfl⟩
      · obtain ⟨rfl, same⟩ := List.append_inj' shape rfl
        obtain rfl := List.head_eq_of_cons_eq same
        exact ⟨stage, pictures, [], film, .start, (List.append_nil _).symm, fed, rfl, undrawn⟩
      · rw [List.concat_eq_append, ← List.cons_append, ← List.append_assoc] at shape
        exact ih (List.append_inj' shape rfl).1

theorem Film.dated (film : Film start stage pictures snapshots) (dates : Dates mark)
    (staged : start.easel = some easel) (reached : start.engine.Reached) :
    ∀ snapshot ∈ snapshots, ∀ toast ∈ snapshot, mark toast ≤ stage.engine.numbers := by
  induction film with
  | blank => simp
  | runs film run ih =>
      obtain ⟨_, staged', earlier⟩ := film.run.aged dates staged reached
      obtain ⟨_, _, later⟩ := run.aged dates staged' earlier.reached
      intro snapshot member toast shown
      exact Nat.le_trans (ih snapshot member toast shown) later.numbers
  | takes film fed undrawn ih =>
      obtain ⟨_, _, aged⟩ := film.run.aged dates staged reached
      intro snapshot member
      rcases List.mem_append.mp member with earlier | last
      · exact ih snapshot earlier
      · rw [List.mem_singleton.mp last]
        exact dates.given aged.reached

def Owed (pictures : List Picture) (easel : Easel) : Prop :=
  ∀ id ∈ easel.reports, ∃ last ∈ pictures.getLast?, ∃ shown ∈ last.snapshot,
    shown.id = id ∧ shown.lifecycle = .entering

theorem Advances.owed (advances : Advances engine easel next easel' picture)
    (owed : Owed pictures easel) : Owed (pictures ++ picture.toList) easel' := by
  cases advances with
  | draws snapshot queue rest top done waiting =>
      intro id listed
      obtain ⟨shown, member, entering, same⟩ := Renderer.mem_reports.mp listed
      exact ⟨(easel.renderer.draw engine snapshot).2, by simp, shown, member, same, entering⟩
  | reports id reports rest top due =>
      rw [Option.toList_none, List.append_nil]
      intro other listed
      exact owed other (by simp [due, listed])
  | _ =>
      rw [Option.toList_none, List.append_nil]
      exact owed

/-- The frames that were drawn, and then the snapshots that wait, are a film of the run. -/
theorem Run.filmed (run : Run start stage pictures) (staged : start.easel = some easel)
    (supplied : Supplied start.engine easel) (waiting : easel.queue = [])
    (done : easel.reports = []) :
    ∃ easel, stage.easel = some easel ∧ Supplied stage.engine easel ∧ Owed pictures easel ∧
      Film start stage pictures (pictures.map (·.snapshot) ++ easel.queue) := by
  induction run with
  | start => exact ⟨easel, staged, supplied, by simp [Owed, done], by simpa [waiting] using .blank⟩
  | @next stage after pictures picture run cue followed ih =>
      obtain ⟨easel, staged, supplied, owed, film⟩ := ih
      obtain ⟨easel', staged', advances⟩ := follow?_advances staged followed
      refine ⟨easel', staged', advances.supplied supplied, advances.owed owed, ?_⟩
      have goes {snapshots : List (List Toast)} (film : Film start stage pictures snapshots) :=
        film.runs (.single followed)
      generalize after.engine = next at advances
      cases advances with
      | takes listener snapshot rest top own =>
          have fed : stage.isFed = true := by
            simp [isFed, staged, top, Frame.feeds, own]
          obtain ⟨rfl, _⟩ := supplied.fed top own
          rw [Option.toList_none, List.append_nil] at goes ⊢
          simp only [Easel.put]
          split
          · rw [← List.append_assoc]
            exact goes (film.takes fed (by simp))
          · exact goes film
      | draws snapshot queue rest top done waiting =>
          rw [waiting] at film
          let drawn := (easel.renderer.draw stage.engine snapshot).2
          have order : (pictures ++ [drawn]).map (·.snapshot) ++ queue =
              pictures.map (·.snapshot) ++ snapshot :: queue := by
            rw [List.map_append, List.append_assoc]
            rfl
          exact order ▸ goes film
      | _ =>
          rw [Option.toList_none, List.append_nil] at goes ⊢
          exact goes film

theorem Taken.frame_later {before later : List Picture} {last : Picture}
    (held : Taken start stage (pictures ++ [last]) (pictures.map (·.snapshot)) snapshot after before
      later) : ∃ rest, later = rest ++ [last] := by
  rcases List.eq_nil_or_concat later with rfl | ⟨rest, final, rfl⟩
  · have drawn := congrArg List.length held.split
    have undrawn := held.undrawn
    simp at drawn undrawn
    omega
  · have split := held.split
    rw [List.concat_eq_append, ← List.append_assoc] at split
    obtain rfl := List.head_eq_of_cons_eq (List.append_inj' split rfl).2
    exact ⟨rest, List.concat_eq_append⟩

/-- A mark has been drawn by the end exactly if it was given out before the last snapshot was taken,
as long as a record with this mark is there. -/
theorem Taken.draws {before later : List Picture} {last : Picture}
    (held : Taken start stage (pictures ++ [last]) (pictures.map (·.snapshot)) last.snapshot after
      before later) (dates : Dates mark) (staged : start.easel = some easel)
    (reached : start.engine.Reached) (present : toast ∈ stage.engine.store.toasts) :
    Draws mark (mark toast) (pictures ++ [last]) ↔ mark toast ≤ after.engine.numbers := by
  obtain ⟨_, staged', earlier⟩ := held.film.run.aged dates staged reached
  constructor
  · rintro ⟨picture, member, drawn, shown, same⟩
    rw [← same]
    rcases List.mem_append.mp member with front | final
    · exact held.film.dated dates staged reached _ (List.mem_map_of_mem front) drawn shown
    · rw [List.mem_singleton.mp final, ← held.toasts] at shown
      exact dates.given earlier.reached drawn shown
  · intro given
    obtain ⟨_, _, later⟩ := held.sequel.aged dates staged' earlier.reached
    obtain ⟨old, there, same⟩ := later.origin toast present given
    exact ⟨last, by simp, old, held.toasts ▸ there, same⟩

/-- The renderer moves a record to visible only after it has drawn a toast of that identity
entering, in the last frame. It has drawn the very record, in any frame, exactly if the record has
been neither created nor revised since the snapshot of that frame was handed over; and the same
toast, in whichever edition, exactly if it has not been created since. -/
theorem paints_exact {settings : Settings} {defaults : Defaults} {now capacity : Nat}
    (run : Run (withRenderer (.fresh settings defaults now) capacity) stage pictures)
    (reveals : Reveals stage after toast) :
    ∃ taken before later last,
      Run (withRenderer (.fresh settings defaults now) capacity) taken before ∧
      taken.isFed = true ∧ taken.engine.store.toasts = last.snapshot ∧
      Run taken stage (later ++ [last]) ∧ pictures = before ++ (later ++ [last]) ∧
      (∃ shown ∈ last.snapshot, shown.id = toast.id ∧ shown.lifecycle = .entering) ∧
      (Draws (·.edition) toast.edition pictures ↔ toast.edition ≤ taken.engine.numbers) ∧
      (Draws (·.birth) toast.birth pictures ↔ toast.birth ≤ taken.engine.numbers) := by
  obtain ⟨first, staged, supplied⟩ := supplied_withRenderer settings defaults now capacity
  obtain rfl : _ = first := Option.some.inj staged
  obtain ⟨easel, staged', supplied', owed, film⟩ := run.filmed staged supplied rfl rfl
  obtain ⟨last, final, shown⟩ := owed toast.id (reveals.reported staged' supplied'.reached)
  obtain ⟨earlier, rfl⟩ := List.getLast?_eq_some_iff.mp final
  rw [List.map_append, List.append_assoc] at film
  obtain ⟨taken, before, later, held⟩ := film.taken
  obtain ⟨rest, rfl⟩ := held.frame_later
  exact ⟨taken, before, rest, last, held.film.run, held.fed, held.toasts, held.sequel, held.split,
    shown, held.draws dates_edition staged supplied.reached reveals.present,
    held.draws dates_birth staged supplied.reached reveals.present⟩

def drawnOnce : Stage × List Picture :=
  ((withRenderer (.fresh {} {} 0) 32).play? (putUp "x" ++ [.aside (.poll 0), .own])).get rfl

/-- The toast that is reported then has been there when its snapshot was taken. -/
theorem drawnOnce_in_time : ∃ after toast, Reveals drawnOnce.1 after toast ∧
    ∃ taken before, Run (withRenderer (.fresh {} {} 0) 32) taken before ∧
      taken.isFed = true ∧ toast.edition ≤ taken.engine.numbers := by
  have played : (withRenderer (.fresh {} {} 0) 32).play? (putUp "x" ++ [.aside (.poll 0), .own]) =
      some drawnOnce := rfl
  have reveals : Reveals drawnOnce.1 ((drawnOnce.1.follow? .own).get rfl).1
      (drawnOnce.1.engine.store.toasts.head (by decide)) :=
    ⟨rfl, ⟨_, rfl⟩, List.mem_cons_self, rfl, List.mem_cons_self⟩
  obtain ⟨taken, before, later, last, run, fed, _, _, _, _, edition, _⟩ :=
    paints_exact (run_of_play? played) reveals
  have drawn := edition.mp ⟨_, List.mem_cons_self, _, List.mem_cons_self, rfl⟩
  exact ⟨_, _, reveals, taken, before, run, fed, drawn⟩

def clearUp : List Cue :=
  .aside (.request (.clear none)) :: List.replicate 4 .own ++ [.aside .handBack]

/-- There is room for one snapshot only. A toast is put up, cleared, and put up again before the
renderer draws the first one, and the second is reported as painted. -/
theorem cleared_unpainted : ∃ stage pictures after toast,
    (withRenderer (.fresh {} {} 0) 1).play?
        (putUp "x" ++ clearUp ++ putUp "x" ++ [.aside (.poll 0), .own]) = some (stage, pictures) ∧
      Run (withRenderer (.fresh {} {} 0) 1) stage pictures ∧ Reveals stage after toast ∧
      ¬ Draws (·.edition) toast.edition pictures ∧ ¬ Draws (·.birth) toast.birth pictures := by
  have played : (withRenderer (.fresh {} {} 0) 1).play?
      (putUp "x" ++ clearUp ++ putUp "x" ++ [.aside (.poll 0), .own]) = some _ := rfl
  refine ⟨_, _, _, _, played, run_of_play? played,
    ⟨rfl, ⟨_, rfl⟩, List.mem_cons_self, rfl, List.mem_cons_self⟩, ?_, ?_⟩ <;>
  · rintro ⟨picture, member, toast, shown, same⟩
    -- There is one frame, with one toast.
    obtain rfl := List.mem_singleton.mp member
    obtain rfl := List.mem_singleton.mp shown
    cases same

end Toasts.Console.Stage
