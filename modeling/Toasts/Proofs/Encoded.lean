import Toasts.Decode
import Toasts.Proofs.Written
import Toasts.Toast.View

/-!
Lifespans as JSON. A countdown is written in whole milliseconds, and a number that is read is a
countdown unless it is zero. So every lifespan reads back as what it was, to the millisecond, but a
countdown shorter than one millisecond: it is written as the number that means persistent.
-/

namespace Toasts

namespace Json

variable {number : Nat}

theorem isDigit_digits (number : Nat) : ∀ char ∈ Nat.toDigits 10 number, Text.isDigit char = true :=
  fun _ => Text.isDigit_of_mem_toDigits

theorem head_toDigits (above : 0 < number) : (Nat.toDigits 10 number).head? ≠ some '0' := by
  induction number using Nat.strongRecOn with
  | ind number ih =>
      rw [Nat.toDigits_eq_if (by decide)]
      split
      · next small =>
          have every : ∀ digit < 10, 0 < digit → [Nat.digitChar digit].head? ≠ some '0' := by decide
          exact every number small above
      · next large =>
          have front := ih (number / 10) (by omega) (by omega)
          obtain ⟨digit, digits, counted⟩ :=
            List.exists_cons_of_ne_nil (Nat.toDigits_ne_nil (n := number / 10) (b := 10))
          rwa [counted, List.cons_append, List.head?_cons, ← List.head?_cons (l := digits), ← counted]

theorem no_leading_zero (number : Nat) :
    ¬((Nat.toDigits 10 number).head? = some '0' ∧ (Nat.toDigits 10 number).length ≠ 1) := by
  rintro ⟨front, long⟩
  rcases Nat.eq_zero_or_pos number with rfl | above
  · exact long rfl
  · exact head_toDigits above front

theorem read_digits (number : Nat) :
    Numeral.read (Nat.toDigits 10 number) =
      some ({ negative := false, whole := Nat.toDigits 10 number }, []) := by
  have every := isDigit_digits number
  have plain := no_leading_zero number
  have filled := Nat.toDigits_ne_nil (n := number) (b := 10)
  generalize Nat.toDigits 10 number = digits at every plain filled
  have taken : digits.takeWhile Text.isDigit = digits := by
    simpa using @List.takeWhile_append_of_pos _ Text.isDigit digits [] every
  have left : digits.dropWhile Text.isDigit = [] := by
    simpa using @List.dropWhile_append_of_pos _ Text.isDigit digits [] every
  unfold Numeral.read
  split
  next negative chars sign =>
    have unsigned : negative = false ∧ chars = digits := by
      split at sign
      · exact absurd (every '-' List.mem_cons_self) (by decide)
      · cases sign
        exact ⟨rfl, rfl⟩
    obtain ⟨rfl, rfl⟩ := unsigned
    simp only [taken, left, filled, plain, or_self, if_false]
    rfl

theorem value_digits (small : number < unsignedBound) :
    Numeral.value? { negative := false, whole := Nat.toDigits 10 number } =
      some (.natural (UInt64.ofNat number)) := by
  have whole := Text.digitsValue_toDigits number
  simp [Numeral.value?, whole, Nat.not_le.mpr small]

theorem numberValue?_toString (small : number < unsignedBound) :
    numberValue? (toString number) = some (.natural (UInt64.ofNat number)) := by
  rw [numberValue?, Nat.toString_eq_ofList_toDigits, String.toList_ofList, read_digits]
  exact value_digits small

theorem skipSpace_digits (number : Nat) :
    skipSpace (Nat.toDigits 10 number) = Nat.toDigits 10 number := by
  have every := isDigit_digits number
  cases spelled : Nat.toDigits 10 number with
  | nil => rfl
  | cons digit later =>
      have solid : isSpace digit = false := by
        have code := Text.isDigit_iff.mp (every digit (by simp [spelled]))
        simp only [isSpace, Bool.or_eq_false_iff, beq_eq_false_iff_ne]
        refine ⟨⟨⟨?_, ?_⟩, ?_⟩, ?_⟩ <;> rintro rfl <;> revert code <;> decide
      rw [skipSpace, List.dropWhile_cons_of_neg (by simp [solid])]

theorem readFirst?_toString (number depth : Nat) :
    readFirst? depth (toString number) = some (.number (toString number), []) := by
  have every := isDigit_digits number
  have read := read_digits number
  rw [readFirst?, Nat.toString_eq_ofList_toDigits, String.toList_ofList, readValue,
    skipSpace_digits]
  generalize Nat.toDigits 10 number = digits at every read
  split
  case h_7 =>
    rw [read]
    simp
  all_goals exact absurd (every _ List.mem_cons_self) (by decide)

end Json

namespace Decode

theorem lifespanText_ofNat {number : Nat} (small : number < unsignedBound) :
    lifespanText (Json.ofNat number).render = .ok (.ofMillis (min number (signedBound - 1))) := by
  have every := Json.isDigit_digits number
  have value : lifespan (.number (toString number)) =
      .ok (.ofMillis (min number (signedBound - 1))) := by
    have whole : (UInt64.ofNat number).toNat = number := UInt64.toNat_ofNat_of_lt small
    simp only [lifespan, Json.numberValue?_toString small, lifespanOfNumber, whole]
  have blank : Json.skipSpace (toString number).toList = Nat.toDigits 10 number := by
    rw [Nat.toString_eq_ofList_toDigits, String.toList_ofList, Json.skipSpace_digits]
  rw [Json.ofNat, Json.render, lifespanText, blank, Json.readFirst?_toString]
  generalize Nat.toDigits 10 number = digits at every
  split
  case h_3 => simp only [value, Span.ok_bind, Json.skipSpace, List.dropWhile_nil, if_true]
  all_goals exact absurd (every _ List.mem_cons_self) (by decide)

end Decode

namespace Lifespan

/-- What is read keeps the meaning of what was written: it counts down exactly if that did, and then
for its whole milliseconds, as far as 63 bits reach. -/
structure KeptBy (written read : Lifespan) : Prop where
  counts : read.countdown.isSome = written.countdown.isSome
  truncated : ∀ span left, written.countdown = some span → read.countdown = some left →
    left.nanos = min span.wholeMillis (signedBound - 1) * nanosPerMilli

variable {lifespan : Lifespan}

theorem lifespanText_json {span : Span} (counts : lifespan.countdown = some span) :
    Decode.lifespanText lifespan.json.render =
      .ok (.ofMillis (min span.wholeMillis (signedBound - 1) : Nat)) := by
  rw [json, counts]
  dsimp only
  rw [Decode.lifespanText_ofNat (by simp only [unsignedBound]; omega)]
  congr 2
  simp only [unsignedBound, signedBound]
  omega

theorem lifespanText_json_none (counts : lifespan.countdown = none) :
    Decode.lifespanText lifespan.json.render = .ok .persistent := by
  rw [json, counts]
  rfl

theorem countdown_ofMillis {millis : Nat} (above : 0 < millis) (small : millis < signedBound) :
    ∃ left, (ofMillis millis).countdown = some left ∧ left.nanos = millis * nanosPerMilli := by
  have bounded : millis * nanosPerMilli < spanLimit := by
    simp only [signedBound, nanosPerMilli, spanLimit, unsignedBound, nanosPerSecond] at *
    omega
  have whole : (Span.ofMillis millis).nanos = millis * nanosPerMilli :=
    Span.nanos_ofNanos _ bounded
  have lasting : (Span.ofMillis millis).isZero = false := by
    rw [Span.isZero, whole, beq_eq_false_iff_ne]
    exact Nat.mul_ne_zero (Nat.ne_of_gt above) (by decide)
  refine ⟨Span.ofMillis millis, ?_, whole⟩
  have finite : ofMillis millis = .finite (Span.ofMillis millis) := by
    rw [ofMillis, if_neg (by omega), Int.toNat_natCast]
  rw [finite, countdown, lasting, if_neg Bool.false_ne_true]

/-- The JSON of a lifespan always reads as a lifespan. It keeps the meaning of what was written
exactly when that does not count down for less than one millisecond; such a countdown is lost. -/
theorem kept_json (lifespan : Lifespan) : ∃ read,
    Decode.lifespanText lifespan.json.render = .ok read ∧
      (KeptBy lifespan read ↔
        ∀ span, lifespan.countdown = some span → nanosPerMilli ≤ span.nanos) ∧
      (¬KeptBy lifespan read → read = .persistent) := by
  cases counts : lifespan.countdown with
  | none =>
      have kept : KeptBy lifespan .persistent := ⟨by rw [counts]; rfl, nofun⟩
      exact ⟨_, lifespanText_json_none counts, ⟨nofun, fun _ => kept⟩, absurd kept⟩
  | some span =>
      refine ⟨_, lifespanText_json counts, ?_⟩
      have finest : 0 < span.wholeMillis ↔ nanosPerMilli ≤ span.nanos :=
        Nat.div_pos_iff.trans (and_iff_right (by decide))
      by_cases short : span.wholeMillis = 0
      · have lost : ofMillis (min span.wholeMillis (signedBound - 1) : Nat) = .persistent := by
          rw [short]
          rfl
        have broken : ¬KeptBy lifespan .persistent := by
          intro kept
          have counted := kept.counts
          rw [counts] at counted
          exact Bool.false_ne_true counted
        rw [lost]
        refine ⟨⟨fun kept => absurd kept broken, fun every => ?_⟩, fun _ => rfl⟩
        exact absurd (finest.mpr (every span rfl)) (by omega)
      · have bounds : 0 < min span.wholeMillis (signedBound - 1) ∧
            min span.wholeMillis (signedBound - 1) < signedBound := by
          simp only [signedBound]
          omega
        obtain ⟨left, found, whole⟩ := countdown_ofMillis bounds.1 bounds.2
        have kept : KeptBy lifespan (ofMillis (min span.wholeMillis (signedBound - 1) : Nat)) := by
          refine ⟨by rw [found, counts]; rfl, fun written read same reads => ?_⟩
          obtain rfl : span = written := Option.some.inj (counts.symm.trans same)
          obtain rfl : left = read := Option.some.inj (found.symm.trans reads)
          exact whole
        refine ⟨⟨fun _ written same => ?_, fun _ => kept⟩, absurd kept⟩
        obtain rfl : span = written := Option.some.inj same
        exact finest.mp (Nat.pos_of_ne_zero short)

/-- One nanosecond short of a millisecond, a countdown reads back as none. -/
theorem sliver_lost : ∃ read,
    Decode.lifespanText (finite ⟨999999, by decide⟩).json.render = .ok read ∧
      ¬KeptBy (finite ⟨999999, by decide⟩) read :=
  ⟨.persistent, rfl, fun kept => absurd kept.counts (by decide)⟩

end Lifespan

end Toasts
